import TagIndex.Proofs.Tree.Places

/-! The search for an error, which passes over what nodes say is without errors, finds what a search
of all nodes finds: the bad node that comes first in document order, which is also one that starts
first in the text. -/

namespace TagIndex
namespace Tree

variable {t u c : Tree}

def Forward (t : Tree) : Prop := ∀ u ∈ t.preorder, u.start.byte ≤ u.label.stop

instance : DecidablePred Forward := fun t => inferInstanceAs (Decidable (∀ u ∈ t.preorder, _))

theorem Forward.child (h : t.Forward) (child : c ∈ t.children) : c.Forward :=
  fun u below => h u (mem_preorder_of_child child below)

theorem starts_within (nested : t.Nested) (forward : t.Forward) (mem : u ∈ t.preorder) :
    t.start.byte ≤ u.start.byte ∧ u.start.byte ≤ t.label.stop := by
  induction t using Tree.induction with
  | node l cs ih =>
    obtain rfl | ⟨c, child, below⟩ := mem_preorder.1 mem
    · exact ⟨Nat.le_refl _, forward _ (self_mem_preorder _)⟩
    · have inner := ih c child (nested.child child) (forward.child child) below
      have outer := nested.children.within c child
      omega

theorem pairwise_preorder (nested : t.Nested) (forward : t.Forward) :
    t.preorder.Pairwise fun a b => a.start.byte ≤ b.start.byte := by
  induction t using Tree.induction with
  | node l cs ih =>
    have starts := fun u (mem : u ∈ (node l cs).preorder) => starts_within nested forward mem
    rw [preorder] at starts ⊢
    refine List.pairwise_cons.2 ⟨fun u below => (starts u (List.mem_cons_of_mem _ below)).1, ?_⟩
    rw [preorderAmong_eq_flatMap]
    refine List.pairwise_flatMap.2
      ⟨fun c child => ih c child (nested.child child) (forward.child child), ?_⟩
    -- What is below one child starts before that child ends, and so before the next one starts.
    refine nested.children.apart.imp_of_mem fun {a b} ha hb apart u hu v hv => ?_
    have first := starts_within (nested.child ha) (forward.child ha) hu
    have second := starts_within (nested.child hb) (forward.child hb) hv
    omega

end Tree

open TagIndex.Tree

/-- In a tree whose nodes say so if there is an error below them, the search finds the bad node that
comes first among all nodes, with a name or without, in document order. It finds none exactly if
there is none. If children lie in their parents one after the other, no bad node starts before the
one that is found. -/
theorem search_finds_first_bad {t : Tree} (flagged : t.Flagged) :
    (∀ bad, t.firstError? = some bad ↔ bad.isBad = true ∧
      ∃ before after, t.preorder = before ++ bad :: after ∧ ∀ u ∈ before, u.isBad = false) ∧
    (t.firstError? = none ↔ ∀ u ∈ t.preorder, u.isBad = false) ∧
    (t.Nested → t.Forward → ∀ bad, t.firstError? = some bad →
      ∀ u ∈ t.preorder, u.isBad = true → bad.start.byte ≤ u.start.byte) := by
  have first : ∀ bad, t.firstError? = some bad ↔ bad.isBad = true ∧
      ∃ before after, t.preorder = before ++ bad :: after ∧ ∀ u ∈ before, u.isBad = false := by
    intro bad
    rw [firstError?_eq_find? flagged, List.find?_eq_some_iff_append]
    simp only [Bool.not_eq_true']
  refine ⟨first, ?_, fun nested forward bad found u mem isBad => ?_⟩
  · rw [firstError?_eq_find? flagged, List.find?_eq_none]
    simp only [Bool.not_eq_true]
  · obtain ⟨-, before, after, split, clean⟩ := (first bad).1 found
    have ordered := pairwise_preorder nested forward
    rw [split] at mem ordered
    obtain ahead | rfl | behind := by simpa using mem
    · exact absurd isBad (by simp [clean u ahead])
    · exact Nat.le_refl _
    · exact (List.pairwise_cons.1 (List.pairwise_append.1 ordered).2.1).1 u behind

namespace Sample

def missingParenthesis : Tree :=
  .node ⟨")", false, none, ⟨17, 1, 7⟩, 17, false, false, true, true⟩ []

/-- A tree of `func f( {}` behind a package clause and in front of half a declaration. -/
def unclosed : Tree := .node ⟨"source_file", true, none, ⟨0, 0, 0⟩, 33, false, false, false, true⟩ [
  .node ⟨"package_clause", true, none, ⟨0, 0, 0⟩, 9, false, false, false, false⟩ [
    .node ⟨"package", false, none, ⟨0, 0, 0⟩, 7, false, false, false, false⟩ [],
    .node ⟨"package_identifier", true, none, ⟨8, 0, 8⟩, 9, false, false, false, false⟩ []],
  .node ⟨"function_declaration", true, none, ⟨10, 1, 0⟩, 20, false, false, false, true⟩ [
    .node ⟨"func", false, none, ⟨10, 1, 0⟩, 14, false, false, false, false⟩ [],
    .node ⟨"identifier", true, some "name", ⟨15, 1, 5⟩, 16, false, false, false, false⟩ [],
    .node ⟨"parameter_list", true, some "parameters", ⟨16, 1, 6⟩, 17, false, false, false, true⟩ [
      .node ⟨"(", false, none, ⟨16, 1, 6⟩, 17, false, false, false, false⟩ [],
      missingParenthesis],
    .node ⟨"block", true, some "body", ⟨18, 1, 8⟩, 20, false, false, false, false⟩ [
      .node ⟨"\x7b", false, none, ⟨18, 1, 8⟩, 19, false, false, false, false⟩ [],
      .node ⟨"\x7d", false, none, ⟨19, 1, 9⟩, 20, false, false, false, false⟩ []]],
  .node ⟨"ERROR", true, none, ⟨21, 2, 0⟩, 32, true, true, false, true⟩ [
    .node ⟨"var", false, none, ⟨21, 2, 0⟩, 24, false, false, false, false⟩ [],
    .node ⟨"identifier", true, none, ⟨25, 2, 4⟩, 26, false, false, false, false⟩ [],
    .node ⟨"=", false, none, ⟨27, 2, 6⟩, 28, false, false, false, false⟩ [],
    .node ⟨"int_literal", true, none, ⟨29, 2, 8⟩, 30, false, false, false, false⟩ [],
    .node ⟨"+", false, none, ⟨31, 2, 10⟩, 32, false, false, false, false⟩ []]]

end Sample

theorem search_finds_first_bad_unclosed :
    Sample.unclosed.firstError? = some Sample.missingParenthesis ∧
      (∃ before after, Sample.unclosed.preorder = before ++ Sample.missingParenthesis :: after ∧
        ∀ u ∈ before, u.isBad = false) ∧
      ∀ u ∈ Sample.unclosed.preorder, u.isBad = true → 17 ≤ u.start.byte := by
  have flagged : Sample.unclosed.Flagged := by decide
  have nested : Sample.unclosed.Nested := by decide
  have forward : Sample.unclosed.Forward := by decide
  have found : Sample.unclosed.firstError? = some Sample.missingParenthesis := rfl
  obtain ⟨first, -, least⟩ := search_finds_first_bad flagged
  exact ⟨found, ((first _).1 found).2, least nested forward _ found⟩

end TagIndex
