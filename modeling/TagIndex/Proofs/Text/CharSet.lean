import TagIndex.Text.CharSet
import Mathlib.Data.List.Basic

/-! Character sets built from ranges hold the characters of these ranges. -/

namespace TagIndex.Text.CharSet

def Holds (ranges : List (Nat × Nat)) (code : Nat) : Prop :=
  ∃ r ∈ ranges, r.1 ≤ code ∧ code ≤ r.2

instance (ranges : List (Nat × Nat)) (code : Nat) : Decidable (Holds ranges code) :=
  decidable_of_iff (ranges.any fun r => r.1 ≤ code && code ≤ r.2) (by simp [Holds])

theorem contains_iff {s : CharSet} {code : Nat} : s.contains code = true ↔ Holds s.ranges code := by
  simp [contains, Holds]

theorem holds_cons {r : Nat × Nat} {ranges : List (Nat × Nat)} {code : Nat} :
    Holds (r :: ranges) code ↔ (r.1 ≤ code ∧ code ≤ r.2) ∨ Holds ranges code := by
  simp [Holds]

theorem joinRanges_head {r : Nat × Nat} {ranges joined : List (Nat × Nat)}
    (h : joinRanges ranges = r :: joined) : ∃ hi rest, ranges = (r.1, hi) :: rest := by
  cases ranges with
  | nil => cases h
  | cons first rest =>
    obtain ⟨lo, hi⟩ := first
    rw [joinRanges] at h
    split at h
    · obtain ⟨rfl, -⟩ := List.cons.inj h
      exact ⟨hi, rest, rfl⟩
    · split at h <;> obtain ⟨rfl, -⟩ := List.cons.inj h <;> exact ⟨hi, rest, rfl⟩

theorem holds_joinRanges {ranges : List (Nat × Nat)} {code : Nat}
    (sorted : ranges.Pairwise fun a b => a.1 ≤ b.1) :
    Holds (joinRanges ranges) code ↔ Holds ranges code := by
  induction ranges with
  | nil => rfl
  | cons first rest ih =>
    obtain ⟨lo, hi⟩ := first
    obtain ⟨least, sorted⟩ := List.pairwise_cons.1 sorted
    rw [joinRanges, holds_cons, ← ih sorted]
    cases joined : joinRanges rest with
    | nil => simp [Holds]
    | cons second tail =>
      obtain ⟨hi'', rest', split⟩ := joinRanges_head joined
      have order := least _ (split ▸ List.mem_cons_self)
      simp only at order ⊢
      split_ifs with near
      · rw [holds_cons, holds_cons, ← or_assoc]
        exact or_congr_left (by omega)
      · simp only [holds_cons]

theorem contains_ofRanges {ranges : List (Nat × Nat)} {code : Nat} :
    (ofRanges ranges).contains code = true ↔ Holds ranges code := by
  have sorted : (ranges.mergeSort fun a b => a.1 ≤ b.1).Pairwise
      fun a b => decide (a.1 ≤ b.1) = true :=
    List.pairwise_mergeSort (fun a b c => by simpa using Nat.le_trans)
      (fun a b => by simpa using Nat.le_total _ _) ranges
  rw [contains_iff, ofRanges, holds_joinRanges (sorted.imp (by simp))]
  simp [Holds]

end TagIndex.Text.CharSet
