/-! Paths as texts, and the names they are made of. -/

namespace TagIndex.Files

def nameLimit : Nat := 255

def IsName (name : String) : Prop :=
  name ≠ "" ∧ name ≠ "." ∧ name ≠ ".." ∧ name.utf8ByteSize ≤ nameLimit ∧
    '/' ∉ name.toList ∧ '\x00' ∉ name.toList

instance : DecidablePred IsName := fun _ => inferInstanceAs (Decidable (_ ∧ _))

def isAbsolute (path : String) : Bool := path.toList.head? == some '/'

/-- The names between the slashes of a path. A slash at the end counts as one more name, the empty
one, for which only a directory will do. -/
def steps (path : String) : List String :=
  let pieces := (path.toList.splitOn '/').map String.ofList
  pieces.filter (· ≠ "") ++ if pieces.getLast? = some "" then [""] else []

theorem mem_of_mem_splitOn {α : Type} [BEq α] [LawfulBEq α] {separator x : α}
    {piece xs : List α} (h : piece ∈ xs.splitOn separator) (hx : x ∈ piece) :
    x ∈ xs ∧ x ≠ separator := by
  induction xs generalizing piece with
  | nil => simp_all
  | cons y ys ih =>
    rw [List.splitOn_cons_eq_if_modifyHead] at h
    split at h
    · obtain rfl | h := List.mem_cons.1 h
      · cases hx
      · exact (ih h hx).imp_left (List.mem_cons_of_mem y)
    · rename_i hy
      cases hs : ys.splitOn separator with
      | nil => simp [hs] at h
      | cons head tail =>
        rw [hs] at h ih
        obtain rfl | h := List.mem_cons.1 h
        · obtain rfl | hx := List.mem_cons.1 hx
          · exact ⟨List.mem_cons_self, by simpa using hy⟩
          · exact (ih List.mem_cons_self hx).imp_left (List.mem_cons_of_mem y)
        · exact (ih (List.mem_cons_of_mem _ h) hx).imp_left (List.mem_cons_of_mem y)

theorem mem_of_mem_steps {path name : String} {c : Char} (h : name ∈ steps path)
    (hc : c ∈ name.toList) : c ∈ path.toList ∧ c ≠ '/' := by
  have piece : name ∈ (path.toList.splitOn '/').map String.ofList := by
    obtain h | h := List.mem_append.1 h
    · exact (List.mem_filter.1 h).1
    · split at h
      · obtain rfl := List.mem_singleton.1 h
        simp at hc
      · cases h
  obtain ⟨piece, hp, rfl⟩ := List.mem_map.1 piece
  exact mem_of_mem_splitOn hp (by simpa using hc)

def join (path name : String) : String :=
  if path.toList.getLast? = some '/' then path ++ name else path ++ "/" ++ name

def joinAll (path : String) (names : List String) : String := names.foldl join path

def chainText (names : List String) : String := "/".intercalate names

end TagIndex.Files
