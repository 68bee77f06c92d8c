import TagIndex.Proofs.Text.Utf8

/-! Well-formed UTF-8 by what its bytes mean: each sequence carries the bits of a code point, in as
few bytes as can carry them. These are the bytes of texts. -/

namespace TagIndex.Text.Utf8

inductive Carries : List UInt8 → Nat → Prop
  | one {a : UInt8} (first : a.toNat < 0x80) : Carries [a] a.toNat
  | two {a b : UInt8} (first : 0xC0 ≤ a.toNat ∧ a.toNat < 0xE0) (second : isContinuation b) :
      Carries [a, b] (a.toNat % 32 * 64 + low b)
  | three {a b c : UInt8} (first : 0xE0 ≤ a.toNat ∧ a.toNat < 0xF0) (second : isContinuation b)
      (third : isContinuation c) :
      Carries [a, b, c] ((a.toNat % 16 * 64 + low b) * 64 + low c)
  | four {a b c d : UInt8} (first : 0xF0 ≤ a.toNat ∧ a.toNat < 0xF8) (second : isContinuation b)
      (third : isContinuation c) (fourth : isContinuation d) :
      Carries [a, b, c, d] (((a.toNat % 8 * 64 + low b) * 64 + low c) * 64 + low d)

/-- The bytes are a whole character: no form is longer than it has to be, and there is none for
surrogates and for values beyond the last code point. -/
structure IsSequence (bytes : List UInt8) (value : Nat) : Prop where
  carries : Carries bytes value
  shortest : ∀ other, Carries other value → bytes.length ≤ other.length
  noSurrogate : ¬ (0xD800 ≤ value ∧ value ≤ 0xDFFF)
  inRange : value ≤ 0x10FFFF

inductive IsUtf8 : List UInt8 → Prop
  | nil : IsUtf8 []
  | cons {first rest : List UInt8} {value : Nat} (sequence : IsSequence first value)
      (more : IsUtf8 rest) : IsUtf8 (first ++ rest)

theorem Carries.le_length {bytes : List UInt8} {value : Nat} (h : Carries bytes value) :
    1 ≤ bytes.length ∧ (0x80 ≤ value → 2 ≤ bytes.length) ∧ (0x800 ≤ value → 3 ≤ bytes.length) ∧
      (0x10000 ≤ value → 4 ≤ bytes.length) := by
  cases h with
  | one first => simpa using by omega
  | @two a b =>
    have bits := low_lt b
    simpa using by omega
  | @three a b c =>
    have bits := low_lt b
    have bits' := low_lt c
    simpa using by omega
  | four => simp

theorem Carries.continues {a : UInt8} {more : List UInt8} {value : Nat}
    (h : Carries (a :: more) value) :
    isContinuation a = false ∧ ∀ b ∈ more, isContinuation b = true := by
  have other (first : ¬ (0x80 ≤ a.toNat ∧ a.toNat ≤ 0xBF)) : isContinuation a = false :=
    Bool.eq_false_iff.2 (mt isContinuation_iff.1 first)
  cases h with
  | one first => exact ⟨other (by omega), by simp⟩
  | two first second => exact ⟨other (by omega), by simpa using second⟩
  | three first second third => exact ⟨other (by omega), by simpa using ⟨second, third⟩⟩
  | four first second third fourth =>
    exact ⟨other (by omega), by simpa using ⟨second, third, fourth⟩⟩

theorem carries_one {v : Nat} (small : v ≤ 0x7f) : Carries [UInt8.ofNat v] v := by
  have first : (UInt8.ofNat v).toNat = v := by
    rw [UInt8.toNat_ofNat']
    omega
  have carries := Carries.one (a := UInt8.ofNat v) (by omega)
  rwa [first] at carries

theorem carries_two {v : Nat} (small : v ≤ 0x7ff) :
    Carries [UInt8.ofNat (v / 64 % 0x20 + 0xC0), UInt8.ofNat (v % 0x40 + 0x80)] v := by
  have first : (UInt8.ofNat (v / 64 % 0x20 + 0xC0)).toNat = v / 64 + 0xC0 := by
    rw [UInt8.toNat_ofNat']
    omega
  have value : (v / 64 + 0xC0) % 32 * 64 + v % 64 = v := by omega
  have carries := Carries.two (a := UInt8.ofNat (v / 64 % 0x20 + 0xC0)) (by omega)
    (isContinuation_marked v)
  rwa [first, low_marked, value] at carries

theorem carries_three {v : Nat} (small : v ≤ 0xffff) :
    Carries [UInt8.ofNat (v / 4096 % 0x10 + 0xE0), UInt8.ofNat (v / 64 % 0x40 + 0x80),
      UInt8.ofNat (v % 0x40 + 0x80)] v := by
  have first : (UInt8.ofNat (v / 4096 % 0x10 + 0xE0)).toNat = v / 4096 + 0xE0 := by
    rw [UInt8.toNat_ofNat']
    omega
  have value : ((v / 4096 + 0xE0) % 16 * 64 + v / 64 % 64) * 64 + v % 64 = v := by omega
  have carries := Carries.three (a := UInt8.ofNat (v / 4096 % 0x10 + 0xE0)) (by omega)
    (isContinuation_marked (v / 64)) (isContinuation_marked v)
  rwa [first, low_marked, low_marked, value] at carries

theorem carries_four {v : Nat} (small : v ≤ 0x10FFFF) :
    Carries [UInt8.ofNat (v / 262144 % 0x08 + 0xF0), UInt8.ofNat (v / 4096 % 0x40 + 0x80),
      UInt8.ofNat (v / 64 % 0x40 + 0x80), UInt8.ofNat (v % 0x40 + 0x80)] v := by
  have first : (UInt8.ofNat (v / 262144 % 0x08 + 0xF0)).toNat = v / 262144 + 0xF0 := by
    rw [UInt8.toNat_ofNat']
    omega
  have value : (((v / 262144 + 0xF0) % 8 * 64 + v / 4096 % 64) * 64 + v / 64 % 64) * 64 + v % 64 =
      v := by
    omega
  have carries := Carries.four (a := UInt8.ofNat (v / 262144 % 0x08 + 0xF0)) (by omega)
    (isContinuation_marked (v / 4096)) (isContinuation_marked (v / 64)) (isContinuation_marked v)
  rwa [first, low_marked, low_marked, low_marked, value] at carries

theorem isSequence_encode (c : Char) : IsSequence (String.utf8EncodeChar c) c.toNat := by
  have valid : c.val.toNat.isValidChar := c.valid
  change IsSequence _ c.val.toNat
  unfold String.utf8EncodeChar
  simp only
  generalize c.val.toNat = v at valid
  unfold Nat.isValidChar at valid
  split
  · rename_i one
    exact ⟨carries_one one, fun _ other => other.le_length.1, by omega, by omega⟩
  split
  · rename_i one two
    exact ⟨carries_two two, fun _ other => other.le_length.2.1 (by omega), by omega, by omega⟩
  split
  · rename_i two three
    exact ⟨carries_three three, fun _ other => other.le_length.2.2.1 (by omega), by omega,
      by omega⟩
  · rename_i three
    exact ⟨carries_four (by omega), fun _ other => other.le_length.2.2.2 (by omega), by omega,
      by omega⟩

theorem prefix_of_encode_eq {source text : List Char} {after : List UInt8}
    (h : encode source = encode text ++ after) : text <+: source := by
  obtain ⟨tail, rfl, -⟩ := exists_append_of_encode_eq_append h
  exact List.prefix_append text tail

/-- Characters begin where no other goes on: a text whose bytes stand among those of another text
stands in it. -/
theorem infix_of_encode_eq {source text : List Char} (nonempty : text ≠ [])
    {before after : List UInt8} (h : encode source = before ++ (encode text ++ after)) :
    text <:+: source := by
  induction source generalizing before with
  | nil =>
    have empty : encode text = [] := by simp_all
    exact absurd (encode_eq_nil_iff.1 empty) nonempty
  | cons d source ih =>
    obtain ⟨rest, -, later⟩ | ⟨overlap, split, rest⟩ := List.append_eq_append_iff.1 h
    · exact (ih later).trans (List.suffix_cons d source).isInfix
    · obtain _ | ⟨a, front⟩ := before
      · exact (prefix_of_encode_eq h).isInfix
      · obtain _ | ⟨b, overlap⟩ := overlap
        · exact (prefix_of_encode_eq rest.symm).isInfix.trans (List.suffix_cons d source).isInfix
        · -- The bytes would begin within a character.
          obtain ⟨c, text, rfl⟩ := List.exists_cons_of_ne_nil nonempty
          obtain ⟨b', more, bytes⟩ : ∃ b' more, String.utf8EncodeChar c = b' :: more :=
            List.exists_cons_of_ne_nil String.utf8EncodeChar_ne_nil
          rw [encode_cons, bytes, List.cons_append, List.cons_append, List.cons_append] at rest
          obtain ⟨same, -⟩ := List.cons.inj rest
          have outer := (isSequence_encode d).carries
          have inner := (isSequence_encode c).carries
          rw [split, List.cons_append] at outer
          rw [bytes, same] at inner
          have within := outer.continues.2 b (by simp)
          rw [inner.continues.1] at within
          cases within

theorem IsSequence.encode_eq {bytes : List UInt8} {value : Nat} (h : IsSequence bytes value) :
    String.utf8EncodeChar (Char.ofNat value) = bytes := by
  obtain ⟨carries, shortest, noSurrogate, inRange⟩ := h
  cases carries with
  | @one a first =>
    have value := @val_ofNat a.toNat (.inl (by omega))
    have one : a.toNat ≤ 0x7f := by omega
    simp only [String.utf8EncodeChar, value, one, if_true]
    rw [eq_ofNat rfl]
  | @two a b first second =>
    have big : 0x7f < a.toNat % 32 * 64 + low b := by
      by_contra small
      have fewer := shortest _ (carries_one (Nat.not_lt.1 small))
      simp at fewer
    have bits := low_lt b
    exact utf8EncodeChar_two (by omega) (isContinuation_iff.1 second)
  | @three a b c first second third =>
    have big : 0x7ff < (a.toNat % 16 * 64 + low b) * 64 + low c := by
      by_contra small
      have fewer := shortest _ (carries_two (Nat.not_lt.1 small))
      simp at fewer
    have second := isContinuation_iff.1 second
    have third := isContinuation_iff.1 third
    unfold low at big noSurrogate
    refine utf8EncodeChar_three (by omega) second third ?_ ?_ <;> omega
  | @four a b c d first second third fourth =>
    have big : 0xffff < ((a.toNat % 8 * 64 + low b) * 64 + low c) * 64 + low d := by
      by_contra small
      have fewer := shortest _ (carries_three (Nat.not_lt.1 small))
      simp at fewer
    have second := isContinuation_iff.1 second
    have third := isContinuation_iff.1 third
    have fourth := isContinuation_iff.1 fourth
    unfold low at big inRange
    refine utf8EncodeChar_four ?_ second third fourth ?_ ?_ <;> omega

theorem isUtf8_iff_wellFormed {bytes : List UInt8} : IsUtf8 bytes ↔ WellFormed bytes := by
  constructor
  · intro h
    induction h with
    | nil => exact ⟨[], rfl⟩
    | cons sequence _ ih =>
      obtain ⟨text, rfl⟩ := ih
      exact ⟨_ :: text, by rw [encode_cons, sequence.encode_eq]⟩
  · rintro ⟨text, rfl⟩
    induction text with
    | nil => exact .nil
    | cons c text ih => exact .cons (isSequence_encode c) ih

end TagIndex.Text.Utf8
