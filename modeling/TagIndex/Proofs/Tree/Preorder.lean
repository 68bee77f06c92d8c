import TagIndex.Source.Reading
import Mathlib.Data.List.Basic

/-! Document order. The search for an error passes over nodes that say there is none; it finds the
same node as a search of all nodes if these nodes tell the truth. -/

namespace TagIndex
namespace Tree

@[elab_as_elim]
theorem induction {motive : Tree → Prop}
    (node : ∀ label children, (∀ c ∈ children, motive c) → motive (.node label children))
    (t : Tree) : motive t :=
  t.rec (motive_2 := fun ts => ∀ t ∈ ts, motive t) node (by simp)
    (fun _ _ head tail => List.forall_mem_cons.2 ⟨head, tail⟩)

mutual

/-- The nodes of a tree in document order: a node stands before those below it. -/
def preorder : Tree → List Tree
  | .node l cs => .node l cs :: preorderAmong cs

def preorderAmong : List Tree → List Tree
  | [] => []
  | t :: ts => t.preorder ++ preorderAmong ts

end

theorem preorderAmong_eq_flatMap (ts : List Tree) : preorderAmong ts = ts.flatMap preorder := by
  induction ts with
  | nil => rfl
  | cons t ts ih => rw [preorderAmong, ih, List.flatMap_cons]

theorem mem_preorder {t u : Tree} :
    u ∈ t.preorder ↔ u = t ∨ ∃ c ∈ t.children, u ∈ c.preorder := by
  cases t
  simp [preorder, preorderAmong_eq_flatMap, children]

theorem self_mem_preorder (t : Tree) : t ∈ t.preorder := mem_preorder.2 (.inl rfl)

theorem mem_preorder_of_child {t c u : Tree} (child : c ∈ t.children) (h : u ∈ c.preorder) :
    u ∈ t.preorder := mem_preorder.2 (.inr ⟨c, child, h⟩)

theorem mem_preorder_trans {t u v : Tree} (h : u ∈ t.preorder) (h' : v ∈ u.preorder) :
    v ∈ t.preorder := by
  induction t using Tree.induction with
  | node l cs ih =>
    obtain rfl | ⟨c, child, below⟩ := mem_preorder.1 h
    · exact h'
    · exact mem_preorder_of_child child (ih c child below)

/-- A node that stands for text that fits nowhere, or for a token that the text lacks. -/
def isBad (t : Tree) : Bool := t.label.error || t.label.missing

/-- Every node says so if there is a bad node below it. A bad node need not say so of itself. -/
def Flagged (t : Tree) : Prop :=
  ∀ u ∈ t.preorder, u.isBad = false → (∃ v ∈ u.preorder, v.isBad) → u.label.hasError

instance : DecidablePred Flagged := fun t => inferInstanceAs (Decidable (∀ u ∈ t.preorder, _))

theorem Flagged.child {t c : Tree} (h : t.Flagged) (child : c ∈ t.children) : c.Flagged :=
  fun u below => h u (mem_preorder_of_child child below)

theorem firstErrorAmong?_eq_find? {ts : List Tree}
    (each : ∀ t ∈ ts, t.firstError? = t.preorder.find? isBad) :
    firstErrorAmong? ts = (preorderAmong ts).find? isBad := by
  induction ts with
  | nil => rfl
  | cons t ts ih =>
    obtain ⟨head, tail⟩ := List.forall_mem_cons.1 each
    rw [firstErrorAmong?, preorderAmong, List.find?_append, head, ih tail, Option.orElse_eq_or]

theorem firstError?_eq_find? {t : Tree} (h : t.Flagged) :
    t.firstError? = t.preorder.find? isBad := by
  induction t using Tree.induction with
  | node l cs ih =>
    rw [firstError?, preorder, List.find?_cons]
    change (if (node l cs).isBad then _ else _) = _
    cases bad : (node l cs).isBad with
    | true => rfl
    | false =>
      cases flag : l.hasError with
      | true =>
        simp only [Bool.false_eq_true, if_false, if_true]
        exact firstErrorAmong?_eq_find? fun c child => ih c child (h.child child)
      | false =>
        -- The search goes no further, and there is nothing further down.
        have clean : ∀ v ∈ preorderAmong cs, ¬ v.isBad = true := by
          intro v below isBad
          have flagged := h _ (self_mem_preorder _) bad
            ⟨v, by rw [preorder]; exact List.mem_cons_of_mem _ below, isBad⟩
          exact absurd flagged (by simp [label, flag])
        simp only [Bool.false_eq_true, if_false]
        exact (List.find?_eq_none.2 clean).symm

theorem exists_of_firstErrorAmong? {ts : List Tree} {bad : Tree}
    (found : firstErrorAmong? ts = some bad) : ∃ t ∈ ts, t.firstError? = some bad := by
  induction ts with
  | nil => cases found
  | cons t ts ih =>
    rw [firstErrorAmong?, Option.orElse_eq_or, Option.or_eq_some_iff] at found
    obtain here | ⟨-, later⟩ := found
    · exact ⟨t, List.mem_cons_self, here⟩
    · obtain ⟨u, mem, found⟩ := ih later
      exact ⟨u, List.mem_cons_of_mem t mem, found⟩

theorem bad_of_firstError? {t bad : Tree} (found : t.firstError? = some bad) :
    bad ∈ t.preorder ∧ bad.isBad = true := by
  induction t using Tree.induction generalizing bad with
  | node l cs ih =>
    rw [firstError?] at found
    split_ifs at found with isBad flag
    · obtain rfl := Option.some.inj found
      exact ⟨self_mem_preorder _, isBad⟩
    · obtain ⟨c, child, found⟩ := exists_of_firstErrorAmong? found
      obtain ⟨below, isBad⟩ := ih c child found
      exact ⟨mem_preorder_of_child child below, isBad⟩

end Tree
end TagIndex
