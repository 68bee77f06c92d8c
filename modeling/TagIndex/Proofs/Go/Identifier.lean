import TagIndex.Go.Tokens
import TagIndex.Proofs.Grammar.Pattern
import TagIndex.Proofs.Text.CharSet

/-! What identifiers of Go are made of. -/

namespace TagIndex.Go
open Grammar Text

theorem identifier_matches {c : Char} {text : List Char}
    (first : CharSet.Holds ((95, 95) :: xidStartRanges) c.toNat)
    (rest : ∀ d ∈ text, CharSet.Holds ((95, 95) :: xidContinueRanges) d.toNat) :
    identifier.Matches (c :: text) := by
  have letter : Pattern.Matches (.one (CharSet.ofRanges ((95, 95) :: xidStartRanges))) [c] :=
    .one (CharSet.contains_ofRanges.2 first)
  refine .andThen letter ?_
  induction text with
  | nil => exact .none
  | cons d text ih =>
    obtain ⟨next, rest⟩ := List.forall_mem_cons.1 rest
    have further : Pattern.Matches (.one (CharSet.ofRanges ((95, 95) :: xidContinueRanges))) [d] :=
      .one (CharSet.contains_ofRanges.2 next)
    exact .more further (ih rest)

theorem least_of_ranges : ∀ r ∈ (95, 95) :: xidStartRanges ++ (95, 95) :: xidContinueRanges,
    48 ≤ r.1 := by
  decide +kernel

theorem identifier_chars {text : List Char} (h : identifier.Matches text) :
    text ≠ [] ∧ ∀ c ∈ text, 48 ≤ c.toNat := by
  constructor
  · intro empty
    have nullable := h.nullable empty
    cases nullable
  · intro c mem
    obtain ⟨set, listed, holds⟩ := h.mem_sets c mem
    simp only [identifier, Pattern.sets, List.cons_append, List.nil_append, List.mem_cons,
      List.not_mem_nil, or_false] at listed
    obtain rfl | rfl := listed
    · obtain ⟨r, mem, least, -⟩ := CharSet.contains_ofRanges.1 holds
      exact Nat.le_trans (least_of_ranges r (List.mem_append_left _ mem)) least
    · obtain ⟨r, mem, least, -⟩ := CharSet.contains_ofRanges.1 holds
      exact Nat.le_trans (least_of_ranges r (List.mem_append_right _ mem)) least

end TagIndex.Go
