import TagIndex.Tag.Extraction
import Mathlib.Data.List.TakeWhile

/-! What the tags of a file keep of its declarations: every name with its kind and its line, in
order, and whether a function that can be seen from other packages is a method. How names are put
together in declarations is not kept, and imports leave nothing. -/

namespace TagIndex

structure Entry where
  kind : TagKind
  name : String
  line : Nat
  hasReceiver : Bool
deriving DecidableEq, Repr

def Decl.entries : Decl → List Entry
  | .function hasReceiver n => [⟨.function, n.name, n.line, hasReceiver⟩]
  | .imports => []
  | .types ns => ns.map fun n => ⟨.type, n.name, n.line, false⟩
  | .values ns => ns.map fun n => ⟨.value, n.name, n.line, false⟩

def SourceFile.entries (f : SourceFile) : List Entry := f.decls.flatMap Decl.entries

def BeginsLowercase (name : String) : Prop :=
  ∃ c rest, name.toList = c :: rest ∧ Text.isLowercase c = true

theorem isPrivate_iff {name : String} : isPrivate name = true ↔ BeginsLowercase name := by
  unfold isPrivate BeginsLowercase
  cases name.toList <;> simp

instance (name : String) : Decidable (BeginsLowercase name) := decidable_of_iff _ isPrivate_iff

namespace Entry

/-- The name is that of a value or of a function without a receiver, and it can be seen from other
packages. -/
def Qualified (e : Entry) : Prop :=
  (e.kind = .value ∨ e.kind = .function ∧ e.hasReceiver = false) ∧ ¬ BeginsLowercase e.name

instance (e : Entry) : Decidable e.Qualified := inferInstanceAs (Decidable (_ ∧ _))

/-- The name with that of its package in front if it is qualified. -/
def display (package : String) (e : Entry) : String :=
  if e.Qualified then package ++ "." ++ e.name else e.name

def receiver? (e : Entry) : Option Bool :=
  if e.kind = .function ∧ ¬ BeginsLowercase e.name then some e.hasReceiver else none

def tag (path package : String) (e : Entry) : Tag := ⟨e.display package, path, e.line, e.kind⟩

def kept (e : Entry) : TagKind × String × Nat × Option Bool :=
  (e.kind, e.name, e.line, e.receiver?)

def Plain (e : Entry) : Prop := '.' ∉ e.name.toList

end Entry

/-- The name behind the last dot. -/
def Tag.bareName (t : Tag) : String :=
  String.ofList (t.name.toList.reverse.takeWhile (· ≠ '.')).reverse

theorem qualify_eq (package name : String) : qualify package name =
    if BeginsLowercase name then name else package ++ "." ++ name := by
  simp only [qualify, isPrivate_iff]

theorem Decl.tags_eq (path package : String) (d : Decl) :
    d.tags path package = d.entries.map (Entry.tag path package) := by
  cases d with
  | function hasReceiver n =>
    cases hasReceiver <;>
      simp [tags, entries, Entry.tag, Entry.display, Entry.Qualified, qualify_eq]
  | imports => rfl
  | types ns => simp [tags, entries, Entry.tag, Entry.display, Entry.Qualified]
  | values ns => simp [tags, entries, Entry.tag, Entry.display, Entry.Qualified, qualify_eq]

theorem SourceFile.tags_eq (f : SourceFile) :
    f.tags = ⟨f.package.name, f.path, f.package.line, .package⟩ ::
      f.entries.map (Entry.tag f.path f.package.name) := by
  simp only [SourceFile.tags, Decl.tags_eq, entries, List.map_flatMap]

namespace Entry

variable {path package : String} {e e' : Entry}

theorem bareName_tag (plain : e.Plain) : (e.tag path package).bareName = e.name := by
  have other : ∀ c ∈ e.name.toList.reverse, decide (c ≠ '.') = true := by
    intro c mem
    have differ : c ≠ '.' := ne_of_mem_of_not_mem (List.mem_reverse.1 mem) plain
    simpa using differ
  have found : (e.display package).toList.reverse.takeWhile (· ≠ '.') = e.name.toList.reverse := by
    unfold display
    split_ifs
    · have split : (package ++ "." ++ e.name).toList.reverse =
          e.name.toList.reverse ++ '.' :: package.toList.reverse := by
        simp
      rw [split, List.takeWhile_append_of_pos other]
      simp
    · exact List.takeWhile_eq_self_iff.2 other
  rw [Tag.bareName, tag, found, List.reverse_reverse, String.ofList_toList]

theorem qualified_iff : e.Qualified ↔
    e.kind = .value ∧ ¬ BeginsLowercase e.name ∨ e.receiver? = some false := by
  unfold Qualified receiver?
  split_ifs with function
  · simp [function.1, function.2]
  · simp only [or_false]
    constructor
    · rintro ⟨value | method, exported⟩
      · exact ⟨value, exported⟩
      · exact absurd ⟨method.1, exported⟩ function
    · exact fun h => ⟨.inl h.1, h.2⟩

theorem qualified_congr (name : e.name = e'.name)
    (shown : e.display package = e'.display package) : e.Qualified ↔ e'.Qualified := by
  have length := congrArg String.length shown
  unfold display at length
  rw [name] at length
  split_ifs at length with first second second
  · exact iff_of_true first second
  · simp at length
  · simp at length
  · exact iff_of_false first second

theorem tag_eq_iff (plain : e.Plain) (plain' : e'.Plain) :
    e.tag path package = e'.tag path package ↔ e.kept = e'.kept := by
  constructor
  · intro same
    obtain ⟨shown, -, line, kind⟩ := Tag.mk.inj same
    have name : e.name = e'.name := calc
      e.name = (e.tag path package).bareName := (bareName_tag plain).symm
      _ = (e'.tag path package).bareName := congrArg Tag.bareName same
      _ = e'.name := bareName_tag plain'
    have receiver : e.receiver? = e'.receiver? := by
      have qualified := qualified_congr name shown
      unfold Qualified at qualified
      unfold receiver?
      rw [← kind, ← name] at qualified ⊢
      split_ifs with function
      · simpa [function.1, function.2] using qualified
      · rfl
    rw [kept, kept, kind, name, line, receiver]
  · intro same
    obtain ⟨kind, name, line, receiver⟩ : e.kind = e'.kind ∧ e.name = e'.name ∧
        e.line = e'.line ∧ e.receiver? = e'.receiver? := by
      simpa [kept] using same
    have qualified : e.Qualified ↔ e'.Qualified := by
      rw [qualified_iff, qualified_iff, kind, name, receiver]
    have shown : e.display package = e'.display package := by
      rw [display, display, name]
      exact if_congr qualified rfl rfl
    rw [tag, tag, shown, line, kind]

theorem map_tag_eq_iff {es es' : List Entry} (plain : ∀ e ∈ es, e.Plain)
    (plain' : ∀ e ∈ es', e.Plain) :
    es.map (tag path package) = es'.map (tag path package) ↔ es.map kept = es'.map kept := by
  induction es generalizing es' with
  | nil => cases es' <;> simp
  | cons e es ih =>
    cases es' with
    | nil => simp
    | cons e' es' =>
      obtain ⟨first, rest⟩ := List.forall_mem_cons.1 plain
      obtain ⟨first', rest'⟩ := List.forall_mem_cons.1 plain'
      simp only [List.map_cons, List.cons.injEq, tag_eq_iff first first', ih rest rest']

end Entry

/-- A file has one tag for its package and then one for each declared name, in order; the name comes
with that of the package if it is that of a value or of a function without a receiver and does not
begin with a lowercase letter. If no declared name has a dot in it, the bare names can be told from
the tags, and two files have the same tags exactly if they have the same path, the same package and
the same names with their kinds, lines and, where functions can be seen from other packages,
receivers. -/
theorem tags_keep_entries (f : SourceFile) :
    f.tags = ⟨f.package.name, f.path, f.package.line, .package⟩ :: f.entries.map (fun e =>
      ⟨if e.Qualified then f.package.name ++ "." ++ e.name else e.name, f.path, e.line, e.kind⟩) ∧
    ((∀ e ∈ f.entries, e.Plain) → f.tags.tail.map Tag.bareName = f.entries.map (·.name)) ∧
    ∀ g : SourceFile, (∀ e ∈ f.entries, e.Plain) → (∀ e ∈ g.entries, e.Plain) →
      (f.tags = g.tags ↔ f.path = g.path ∧ f.package = g.package ∧
        f.entries.map Entry.kept = g.entries.map Entry.kept) := by
  refine ⟨f.tags_eq, fun plain => ?_, fun g plain plain' => ?_⟩
  · rw [f.tags_eq, List.tail_cons, List.map_map]
    exact List.map_congr_left fun e listed => Entry.bareName_tag (plain e listed)
  · rw [f.tags_eq, g.tags_eq, List.cons.injEq]
    constructor
    · rintro ⟨package, rest⟩
      obtain ⟨name, path, line, -⟩ := Tag.mk.inj package
      have same : f.package = g.package := by
        cases fp : f.package
        cases gp : g.package
        simp_all
      rw [path, same, Entry.map_tag_eq_iff plain plain'] at rest
      exact ⟨path, same, rest⟩
    · rintro ⟨path, package, kept⟩
      rw [path, package, Entry.map_tag_eq_iff plain plain']
      exact ⟨rfl, kept⟩

/-- With a dot in its name, a method may be taken for a function. -/
example : (⟨"a.go", ⟨"p", 1⟩, [.function true ⟨"p.F", 2⟩]⟩ : SourceFile).tags =
    (⟨"a.go", ⟨"p", 1⟩, [.function false ⟨"F", 2⟩]⟩ : SourceFile).tags := by
  decide +kernel

end TagIndex
