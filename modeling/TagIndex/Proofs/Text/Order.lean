import TagIndex.Proofs.Text.Utf8
import TagIndex.Text.Order

/-! Lines in the order of their bytes, and the fields that they begin with. A field ends at the
first separator; if the separator comes before every byte that fields are made of, lines in order
have their fields in order. -/

namespace TagIndex.Text

theorem bytesLe_iff {a b : String} :
    bytesLe a b = true ↔ Utf8.encode a.toList ≤ Utf8.encode b.toList := by
  simp [bytesLe]

theorem pairwise_mergeSort_bytesLe {α : Type} (key : α → String) (l : List α) :
    (l.mergeSort fun a b => bytesLe (key a) (key b)).Pairwise fun a b =>
      Utf8.encode (key a).toList ≤ Utf8.encode (key b).toList := by
  have sorted : (l.mergeSort fun a b => bytesLe (key a) (key b)).Pairwise fun a b =>
      bytesLe (key a) (key b) = true := by
    refine List.pairwise_mergeSort ?_ ?_ l
    · intro a b c
      simpa only [bytesLe_iff] using List.le_trans
    · intro a b
      simpa only [Bool.or_eq_true, bytesLe_iff] using List.le_total _ _
  exact sorted.imp bytesLe_iff.1

/-- The field at the beginning of a line. -/
def firstField (separator : UInt8) (line : List UInt8) : List UInt8 :=
  line.takeWhile (· ≠ separator)

variable {separator : UInt8} {a b r s : List UInt8}

theorem firstField_append (apart : separator ∉ a) (r : List UInt8) :
    firstField separator (a ++ separator :: r) = a := by
  have other : ∀ x ∈ a, decide (x ≠ separator) = true := by
    intro x mem
    simpa using fun same : x = separator => apart (same ▸ mem)
  rw [firstField, List.takeWhile_append_of_pos other]
  simp

theorem le_of_line_le (ha : ∀ x ∈ a, separator < x) (hb : ∀ x ∈ b, separator < x)
    (h : a ++ separator :: r ≤ b ++ separator :: s) : a ≤ b := by
  induction a generalizing b with
  | nil => exact List.nil_le b
  | cons x a ih =>
    obtain ⟨first, rest⟩ := List.forall_mem_cons.1 ha
    cases b with
    | nil =>
      have least : x < separator ∨ x = separator := by
        simpa using (List.cons_le_cons_iff.1 h).imp_right And.left
      exact absurd first (UInt8.not_lt.2 (UInt8.le_iff_lt_or_eq.2 least))
    | cons y b =>
      obtain ⟨-, rest'⟩ := List.forall_mem_cons.1 hb
      rw [List.cons_append, List.cons_append, List.cons_le_cons_iff] at h
      rw [List.cons_le_cons_iff]
      exact h.imp_right fun below => ⟨below.1, ih rest rest' below.2⟩

theorem least_encode {text : List Char} {least : Nat} (small : least ≤ 0x80)
    (chars : ∀ c ∈ text, least ≤ c.toNat) : ∀ b ∈ Utf8.encode text, least ≤ b.toNat := by
  intro b mem
  obtain ⟨c, listed, inside⟩ := List.mem_flatMap.1 mem
  by_cases ascii : b.toNat < 0x80
  · have same := Utf8.eq_of_mem_utf8EncodeChar inside ascii
    have bound := chars c listed
    omega
  · omega

end TagIndex.Text
