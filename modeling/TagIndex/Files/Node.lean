import TagIndex.Files.Path

/-! What a file system holds: files, links, and directories of named entries. -/

namespace TagIndex.Files

inductive Node where
  | file (content : List UInt8)
  | link (target : String)
  | directory (entries : List (String × Node))
deriving Inhabited

inductive Surface where
  | file (content : List UInt8)
  | link (target : String)
  | directory
deriving DecidableEq, Inhabited, Repr

abbrev Entries := List (String × Node)

def Entries.find? (entries : Entries) (name : String) : Option Node :=
  (List.find? (fun e => e.1 == name) entries).map (·.2)

def Entries.change (entries : Entries) (name : String) (f : Node → Node) : Entries :=
  entries.map fun e => if e.1 = name then (name, f e.2) else e

namespace Node

def surface : Node → Surface
  | file content => .file content
  | link target => .link target
  | directory _ => .directory

/-- The node that the names lead to, through directories and not through links. -/
def at? : Node → List String → Option Node
  | n, [] => some n
  | directory entries, name :: rest =>
    match Entries.find? entries name with
    | some child => child.at? rest
    | none => none
  | _, _ :: _ => none

def surfaceAt? (n : Node) (location : List String) : Option Surface := (n.at? location).map surface

/-- Put a node where the names lead to. The last name may be a new one; where another name is
missing nothing changes. -/
def put : Node → List String → Node → Node
  | _, [], new => new
  | directory entries, name :: rest, new =>
    if (Entries.find? entries name).isSome then
      directory (Entries.change entries name (·.put rest new))
    else if rest = [] then directory (entries ++ [(name, new)])
    else directory entries
  | n, _ :: _, _ => n

def remove : Node → List String → Node
  | n, [] => n
  | directory entries, [name] => directory (entries.filter fun e => e.1 ≠ name)
  | directory entries, name :: rest =>
    directory (Entries.change entries name (·.remove rest))
  | n, _ :: _ => n

inductive Sound : Node → Prop
  | file (content : List UInt8) : Sound (file content)
  | link {target : String} (readable : '\x00' ∉ target.toList) : Sound (link target)
  | directory {entries : Entries} (distinct : (entries.map (·.1)).Nodup)
      (named : ∀ e ∈ entries, IsName e.1) (below : ∀ e ∈ entries, Sound e.2) :
      Sound (directory entries)

end Node

namespace Entries

@[simp] theorem find?_nil (name : String) : Entries.find? [] name = none := rfl

theorem find?_cons (e : String × Node) (entries : Entries) (name : String) :
    Entries.find? (e :: entries) name =
      if e.1 = name then some e.2 else Entries.find? entries name := by
  by_cases h : e.1 = name <;> simp [Entries.find?, h]

theorem mem_of_find? {entries : Entries} {name : String} {n : Node}
    (h : entries.find? name = some n) : (name, n) ∈ entries := by
  induction entries with
  | nil => cases h
  | cons e entries ih =>
    rw [find?_cons] at h
    split at h
    · simp_all [eq_comm]
    · exact List.mem_cons_of_mem e (ih h)

theorem find?_eq_none_iff {entries : Entries} {name : String} :
    entries.find? name = none ↔ name ∉ entries.map (·.1) := by
  induction entries with
  | nil => simp
  | cons e entries ih =>
    rw [find?_cons]
    split <;> simp_all [eq_comm]

theorem find?_change (entries : Entries) (changed name : String) (f : Node → Node) :
    (entries.change changed f).find? name =
      if name = changed then (entries.find? name).map f else entries.find? name := by
  induction entries with
  | nil => simp [change]
  | cons e entries ih =>
    simp only [change, List.map_cons, find?_cons] at ih ⊢
    grind

theorem names_change (entries : Entries) (changed : String) (f : Node → Node) :
    (entries.change changed f).map (·.1) = entries.map (·.1) := by
  simp only [change, List.map_map]
  refine List.map_congr_left fun e _ => ?_
  simp only [Function.comp_apply]
  split <;> simp_all

theorem find?_append_new {entries : Entries} {name : String} (new : Node) (other : String)
    (h : entries.find? name = none) :
    Entries.find? (entries ++ [(name, new)]) other =
      if other = name then some new else entries.find? other := by
  induction entries with
  | nil => simp [find?_cons, eq_comm]
  | cons e entries ih =>
    rw [find?_cons] at h
    simp only [List.cons_append, find?_cons]
    grind

theorem find?_filter_ne (entries : Entries) (removed name : String) :
    Entries.find? (entries.filter fun e => e.1 ≠ removed) name =
      if name = removed then none else entries.find? name := by
  induction entries with
  | nil => simp
  | cons e entries ih =>
    rw [List.filter_cons]
    split <;> simp_all [find?_cons] <;> grind

end Entries
end TagIndex.Files
