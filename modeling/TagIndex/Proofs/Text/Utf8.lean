import TagIndex.Text.Utf8
import Mathlib.Data.List.Basic

/-! Reading UTF-8 undoes writing it: bytes are read as a text exactly when they encode it, and what
cannot be read stops where no further character can be read. -/

namespace TagIndex.Text.Utf8

theorem isContinuation_iff {b : UInt8} :
    isContinuation b = true ↔ 0x80 ≤ b.toNat ∧ b.toNat ≤ 0xBF := by
  simp [isContinuation, UInt8.le_iff_toNat_le]

theorem mayFollow_iff {a b : UInt8} : mayFollow a b = true ↔
    (0x80 ≤ b.toNat ∧ b.toNat ≤ 0xBF) ∧
      (a.toNat = 0xE0 → 0xA0 ≤ b.toNat) ∧ (a.toNat = 0xF0 → 0x90 ≤ b.toNat) ∧
      (a.toNat = 0xED → b.toNat ≤ 0x9F) ∧ (a.toNat = 0xF4 → b.toNat ≤ 0x8F) := by
  simp only [mayFollow, Bool.and_eq_true, decide_eq_true_eq, UInt8.le_iff_toNat_le,
    ← UInt8.toNat_inj]
  have e0 : (0xE0 : UInt8).toNat = 0xE0 := rfl
  have f0 : (0xF0 : UInt8).toNat = 0xF0 := rfl
  have ed : (0xED : UInt8).toNat = 0xED := rfl
  have f4 : (0xF4 : UInt8).toNat = 0xF4 := rfl
  rw [e0, f0, ed, f4]
  split_ifs <;> simp <;> omega

theorem eq_ofNat {b : UInt8} {n : Nat} (h : b.toNat = n) : UInt8.ofNat n = b := by
  rw [← h, UInt8.ofNat_toNat]

theorem val_ofNat {n : Nat} (h : n.isValidChar) : (Char.ofNat n).val.toNat = n := by
  rw [Char.ofNat, dif_pos h]
  rfl

theorem bits_of_add {v bits : Nat} (small : bits < 64) :
    (v * 64 + bits) / 64 = v ∧ (v * 64 + bits) % 64 = bits := by
  omega

theorem low_lt (b : UInt8) : low b < 64 := Nat.mod_lt _ (by decide)

theorem ofNat_low {b : UInt8} (h : 0x80 ≤ b.toNat ∧ b.toNat ≤ 0xBF) :
    UInt8.ofNat (low b + 0x80) = b := by
  unfold low
  exact eq_ofNat (by omega)

theorem utf8EncodeChar_two {a b : UInt8} (first : 0xC2 ≤ a.toNat ∧ a.toNat ≤ 0xDF)
    (second : 0x80 ≤ b.toNat ∧ b.toNat ≤ 0xBF) :
    String.utf8EncodeChar (Char.ofNat (a.toNat % 32 * 64 + low b)) = [a, b] := by
  obtain ⟨above, below⟩ := bits_of_add (v := a.toNat % 32) (low_lt b)
  have small := low_lt b
  rw [String.utf8EncodeChar, val_ofNat (.inl (by omega)), if_neg (by omega), if_pos (by omega)]
  have lead : UInt8.ofNat (a.toNat % 32 % 0x20 + 0xC0) = a := eq_ofNat (by omega)
  simp only [above, below, lead, ofNat_low second]

theorem utf8EncodeChar_three {a b c : UInt8} (first : 0xE0 ≤ a.toNat ∧ a.toNat ≤ 0xEF)
    (second : 0x80 ≤ b.toNat ∧ b.toNat ≤ 0xBF) (third : 0x80 ≤ c.toNat ∧ c.toNat ≤ 0xBF)
    (least : a.toNat = 0xE0 → 0xA0 ≤ b.toNat) (most : a.toNat = 0xED → b.toNat ≤ 0x9F) :
    String.utf8EncodeChar (Char.ofNat ((a.toNat % 16 * 64 + low b) * 64 + low c)) =
      [a, b, c] := by
  have valid : ((a.toNat % 16 * 64 + low b) * 64 + low c).isValidChar := by
    unfold low Nat.isValidChar
    omega
  have big : 0x7ff < (a.toNat % 16 * 64 + low b) * 64 + low c := by
    unfold low
    omega
  have small : (a.toNat % 16 * 64 + low b) * 64 + low c ≤ 0xffff := by
    unfold low
    omega
  obtain ⟨above, below⟩ := bits_of_add (v := a.toNat % 16 * 64 + low b) (low_lt c)
  obtain ⟨above', below'⟩ := bits_of_add (v := a.toNat % 16) (low_lt b)
  have lead : UInt8.ofNat (a.toNat % 16 % 0x10 + 0xE0) = a := eq_ofNat (by omega)
  have split (v : Nat) : v / 4096 = v / 64 / 64 := by omega
  rw [String.utf8EncodeChar, val_ofNat valid, if_neg (by omega), if_neg (by omega),
    if_pos (by omega)]
  simp only [split, above, above', below, below', lead, ofNat_low second, ofNat_low third]

theorem utf8EncodeChar_four {a b c d : UInt8} (first : 0xF0 ≤ a.toNat ∧ a.toNat ≤ 0xF4)
    (second : 0x80 ≤ b.toNat ∧ b.toNat ≤ 0xBF) (third : 0x80 ≤ c.toNat ∧ c.toNat ≤ 0xBF)
    (fourth : 0x80 ≤ d.toNat ∧ d.toNat ≤ 0xBF) (least : a.toNat = 0xF0 → 0x90 ≤ b.toNat)
    (most : a.toNat = 0xF4 → b.toNat ≤ 0x8F) :
    String.utf8EncodeChar
      (Char.ofNat (((a.toNat % 8 * 64 + low b) * 64 + low c) * 64 + low d)) = [a, b, c, d] := by
  have big : 0xffff < ((a.toNat % 8 * 64 + low b) * 64 + low c) * 64 + low d := by
    unfold low
    omega
  have small : ((a.toNat % 8 * 64 + low b) * 64 + low c) * 64 + low d < 0x110000 := by
    unfold low
    omega
  obtain ⟨above, below⟩ := bits_of_add (v := (a.toNat % 8 * 64 + low b) * 64 + low c) (low_lt d)
  obtain ⟨above', below'⟩ := bits_of_add (v := a.toNat % 8 * 64 + low b) (low_lt c)
  obtain ⟨above'', below''⟩ := bits_of_add (v := a.toNat % 8) (low_lt b)
  have lead : UInt8.ofNat (a.toNat % 8 % 0x08 + 0xF0) = a := eq_ofNat (by omega)
  have split (v : Nat) : v / 4096 = v / 64 / 64 := by omega
  have split' (v : Nat) : v / 262144 = v / 64 / 64 / 64 := by omega
  rw [String.utf8EncodeChar, val_ofNat (.inr ⟨by omega, small⟩), if_neg (by omega),
    if_neg (by omega), if_neg (by omega)]
  simp only [split, split', above, above', above'', below, below', below'', lead,
    ofNat_low second, ofNat_low third, ofNat_low fourth]

theorem take_of_decodeChar? {bytes : List UInt8} {c : Char} {n : Nat}
    (h : decodeChar? bytes = some (c, n)) : bytes.take n = String.utf8EncodeChar c := by
  obtain _ | ⟨a, rest⟩ := bytes
  · simp [decodeChar?] at h
  simp only [decodeChar?, Bool.and_eq_true, decide_eq_true_eq, UInt8.le_iff_toNat_le,
    mayFollow_iff, isContinuation_iff, UInt8.reduceToNat] at h
  split at h
  · rename_i one
    obtain ⟨rfl, rfl⟩ := by simpa using h
    have value := @val_ofNat a.toNat (.inl (by omega))
    simp only [String.utf8EncodeChar, value, one, if_true, List.take_succ_cons, List.take_zero]
    rw [eq_ofNat rfl]
  split at h
  · rename_i two
    obtain _ | ⟨b, rest⟩ := rest
    · cases h
    · simp only at h
      split at h
      · rename_i second
        obtain ⟨rfl, rfl⟩ := by simpa using h
        exact (utf8EncodeChar_two two second.1).symm
      · cases h
  split at h
  · rename_i three
    obtain _ | ⟨b, _ | ⟨c, rest⟩⟩ := rest
    · cases h
    · cases h
    · simp only at h
      split at h
      · rename_i later
        obtain ⟨rfl, rfl⟩ := by simpa using h
        obtain ⟨⟨second, least, -, most, -⟩, third⟩ := later
        exact (utf8EncodeChar_three three second third least most).symm
      · cases h
  split at h
  · rename_i four
    obtain _ | ⟨b, _ | ⟨c, _ | ⟨d, rest⟩⟩⟩ := rest
    · cases h
    · cases h
    · cases h
    · simp only at h
      split at h
      · rename_i later
        obtain ⟨rfl, rfl⟩ := by simpa using h
        obtain ⟨⟨⟨second, -, least, -, most⟩, third⟩, fourth⟩ := later
        exact (utf8EncodeChar_four four second third fourth least most).symm
      · cases h
  · cases h

theorem toNat_marked (v : Nat) : (UInt8.ofNat (v % 0x40 + 0x80)).toNat = v % 64 + 0x80 := by
  rw [UInt8.toNat_ofNat']
  omega

theorem low_marked (v : Nat) : low (UInt8.ofNat (v % 0x40 + 0x80)) = v % 64 := by
  rw [low, toNat_marked]
  omega

theorem isContinuation_marked (v : Nat) :
    isContinuation (UInt8.ofNat (v % 0x40 + 0x80)) = true := by
  rw [isContinuation_iff, toNat_marked]
  omega

theorem decodeChar?_two {v : Nat} (big : 0x7f < v) (small : v ≤ 0x7ff) (rest : List UInt8) :
    decodeChar? (UInt8.ofNat (v / 64 % 0x20 + 0xC0) :: UInt8.ofNat (v % 0x40 + 0x80) :: rest) =
      some (Char.ofNat v, 2) := by
  have first : (UInt8.ofNat (v / 64 % 0x20 + 0xC0)).toNat = v / 64 + 0xC0 := by
    rw [UInt8.toNat_ofNat']
    omega
  have follows : mayFollow (UInt8.ofNat (v / 64 % 0x20 + 0xC0))
      (UInt8.ofNat (v % 0x40 + 0x80)) := by
    rw [mayFollow_iff, first, toNat_marked]
    omega
  have value : (v / 64 + 0xC0) % 32 * 64 + v % 64 = v := by omega
  simp only [decodeChar?, UInt8.le_iff_toNat_le, Bool.and_eq_true, decide_eq_true_eq,
    UInt8.reduceToNat, first, follows, low_marked, value]
  rw [if_neg (by omega), if_pos (by omega), if_pos trivial]

theorem decodeChar?_three {v : Nat} (valid : v.isValidChar) (big : 0x7ff < v) (small : v ≤ 0xffff)
    (rest : List UInt8) :
    decodeChar? (UInt8.ofNat (v / 4096 % 0x10 + 0xE0) :: UInt8.ofNat (v / 64 % 0x40 + 0x80) ::
      UInt8.ofNat (v % 0x40 + 0x80) :: rest) = some (Char.ofNat v, 3) := by
  unfold Nat.isValidChar at valid
  have first : (UInt8.ofNat (v / 4096 % 0x10 + 0xE0)).toNat = v / 4096 + 0xE0 := by
    rw [UInt8.toNat_ofNat']
    omega
  have follows : mayFollow (UInt8.ofNat (v / 4096 % 0x10 + 0xE0))
      (UInt8.ofNat (v / 64 % 0x40 + 0x80)) := by
    rw [mayFollow_iff, first, toNat_marked]
    omega
  have value : ((v / 4096 + 0xE0) % 16 * 64 + v / 64 % 64) * 64 + v % 64 = v := by omega
  simp only [decodeChar?, UInt8.le_iff_toNat_le, Bool.and_eq_true, decide_eq_true_eq,
    UInt8.reduceToNat, first, follows, isContinuation_marked, low_marked, value]
  rw [if_neg (by omega), if_neg (by omega), if_pos (by omega), if_pos ⟨trivial, trivial⟩]

theorem decodeChar?_four {v : Nat} (valid : v.isValidChar) (big : 0xffff < v)
    (rest : List UInt8) :
    decodeChar? (UInt8.ofNat (v / 262144 % 0x08 + 0xF0) :: UInt8.ofNat (v / 4096 % 0x40 + 0x80) ::
      UInt8.ofNat (v / 64 % 0x40 + 0x80) :: UInt8.ofNat (v % 0x40 + 0x80) :: rest) =
        some (Char.ofNat v, 4) := by
  have small : v < 0x110000 := by
    unfold Nat.isValidChar at valid
    omega
  have first : (UInt8.ofNat (v / 262144 % 0x08 + 0xF0)).toNat = v / 262144 + 0xF0 := by
    rw [UInt8.toNat_ofNat']
    omega
  have follows : mayFollow (UInt8.ofNat (v / 262144 % 0x08 + 0xF0))
      (UInt8.ofNat (v / 4096 % 0x40 + 0x80)) := by
    rw [mayFollow_iff, first, toNat_marked]
    omega
  have value : (((v / 262144 + 0xF0) % 8 * 64 + v / 4096 % 64) * 64 + v / 64 % 64) * 64 + v % 64 =
      v := by
    omega
  simp only [decodeChar?, UInt8.le_iff_toNat_le, Bool.and_eq_true, decide_eq_true_eq,
    UInt8.reduceToNat, first, follows, isContinuation_marked, low_marked, value]
  rw [if_neg (by omega), if_neg (by omega), if_neg (by omega), if_pos (by omega),
    if_pos ⟨⟨trivial, trivial⟩, trivial⟩]

theorem decodeChar?_append (c : Char) (rest : List UInt8) :
    decodeChar? (String.utf8EncodeChar c ++ rest) =
      some (c, (String.utf8EncodeChar c).length) := by
  have valid : c.val.toNat.isValidChar := c.valid
  have back : Char.ofNat c.val.toNat = c := c.ofNat_toNat
  unfold String.utf8EncodeChar
  simp only
  generalize c.val.toNat = v at valid back
  split
  · rename_i one
    have first : (UInt8.ofNat v).toNat = v := by
      rw [UInt8.toNat_ofNat']
      omega
    simp [decodeChar?, UInt8.le_iff_toNat_le, first, one, back]
  split
  · rename_i one two
    simpa [back] using decodeChar?_two (Nat.not_le.1 one) two rest
  split
  · rename_i two three
    simpa [back] using decodeChar?_three valid (Nat.not_le.1 two) three rest
  · rename_i three
    simpa [back] using decodeChar?_four valid (Nat.not_le.1 three) rest

theorem eq_of_mem_utf8EncodeChar {b : UInt8} {c : Char} (mem : b ∈ String.utf8EncodeChar c)
    (ascii : b.toNat < 0x80) : c.toNat = b.toNat := by
  change c.val.toNat = b.toNat
  unfold String.utf8EncodeChar at mem
  simp only at mem
  generalize c.val.toNat = v at mem ⊢
  split_ifs at mem <;> simp only [List.mem_cons, List.not_mem_nil, or_false] at mem
  · rw [mem, UInt8.toNat_ofNat']
    omega
  all_goals
    exfalso
    obtain rfl | rfl | rfl | rfl := mem
    all_goals
      simp only [UInt8.toNat_ofNat'] at ascii
      omega

/-- The bytes of some text. -/
def WellFormed (bytes : List UInt8) : Prop := ∃ text, bytes = encode text

theorem encode_eq_nil_iff {text : List Char} : encode text = [] ↔ text = [] := by
  cases text <;> simp [String.utf8EncodeChar_ne_nil]

theorem exists_append_of_encode_eq_append {text start : List Char} {rest : List UInt8}
    (h : encode text = encode start ++ rest) :
    ∃ tail, text = start ++ tail ∧ rest = encode tail := by
  induction start generalizing text with
  | nil => exact ⟨text, rfl, by simpa using h.symm⟩
  | cons c start ih =>
    obtain _ | ⟨d, text⟩ := text
    · simp [String.utf8EncodeChar_ne_nil] at h
    · simp only [encode_cons, List.append_assoc] at h
      have same := decodeChar?_append d (encode text)
      rw [h, decodeChar?_append] at same
      obtain ⟨rfl, -⟩ := by simpa using same
      obtain ⟨tail, rfl, rfl⟩ := ih (List.append_cancel_left h)
      exact ⟨tail, rfl, rfl⟩

theorem encode_injective {a b : List Char} (h : encode a = encode b) : a = b := by
  obtain ⟨tail, rfl, empty⟩ := exists_append_of_encode_eq_append (h.trans (List.append_nil _).symm)
  simp [encode_eq_nil_iff.1 empty.symm]

structure StopsAt (bytes : List UInt8) (text : List Char) (rest : List UInt8) : Prop where
  split : bytes = encode text ++ rest
  stop : decodeChar? rest = none

theorem decodeFrom_of_some {bytes : List UInt8} {c : Char} {n : Nat} (offset : Nat)
    (done : List Char) (h : decodeChar? bytes = some (c, n)) :
    decodeFrom offset done bytes = decodeFrom (offset + n) (c :: done) (bytes.drop n) := by
  rw [decodeFrom]
  split
  · rename_i c' n' again
    obtain ⟨rfl, rfl⟩ := by simpa using h.symm.trans again
    rfl
  · simp_all

theorem decodeFrom_of_none {bytes : List UInt8} (offset : Nat) (done : List Char)
    (h : decodeChar? bytes = none) : decodeFrom offset done bytes =
      if bytes.isEmpty then .ok done.reverse else .error ⟨offset, flawLength? bytes⟩ := by
  rw [decodeFrom]
  split
  · simp_all
  · rfl

/-- Reading takes all characters up to a place where there is none, and looks at nothing else. -/
theorem decodeFrom_eq {bytes rest : List UInt8} {text : List Char} (offset : Nat)
    (done : List Char) (h : StopsAt bytes text rest) : decodeFrom offset done bytes =
      if rest.isEmpty then .ok (done.reverse ++ text)
      else .error ⟨offset + (encode text).length, flawLength? rest⟩ := by
  obtain ⟨rfl, stop⟩ := h
  induction text generalizing offset done with
  | nil => simp [decodeFrom_of_none _ _ stop]
  | cons c text ih =>
    rw [encode_cons, List.append_assoc, decodeFrom_of_some _ _ (decodeChar?_append c _),
      List.drop_left, ih]
    simp [Nat.add_assoc]

theorem exists_stopsAt (bytes : List UInt8) : ∃ text rest, StopsAt bytes text rest := by
  match read : decodeChar? bytes with
  | none => exact ⟨[], bytes, rfl, read⟩
  | some (c, n) =>
    have shorter := decodeChar?_length_pos read
    obtain ⟨text, rest, split, stop⟩ := exists_stopsAt (bytes.drop n)
    refine ⟨c :: text, rest, ?_, stop⟩
    rw [encode_cons, List.append_assoc, ← split, ← take_of_decodeChar? read,
      List.take_append_drop]
termination_by bytes.length
decreasing_by
  have some_bytes := List.length_pos_iff.2 shorter.2
  simp only [List.length_drop]
  omega

theorem decode_eq {bytes rest : List UInt8} {text : List Char} (h : StopsAt bytes text rest) :
    decode bytes = if rest.isEmpty then .ok text
      else .error ⟨(encode text).length, flawLength? rest⟩ := by
  simp [decode, decodeFrom_eq 0 [] h]

theorem decode_eq_ok_iff {bytes : List UInt8} {text : List Char} :
    decode bytes = .ok text ↔ bytes = encode text := by
  constructor
  · intro h
    obtain ⟨read, rest, stops⟩ := exists_stopsAt bytes
    rw [decode_eq stops] at h
    obtain _ | ⟨b, rest⟩ := rest
    · obtain rfl : read = text := by simpa using h
      simpa using stops.split
    · simp at h
  · rintro rfl
    have all : StopsAt (encode text) text [] := ⟨(List.append_nil _).symm, rfl⟩
    exact decode_eq all

structure LastGood (bytes : List UInt8) (offset : Nat) : Prop where
  short : offset < bytes.length
  good : WellFormed (bytes.take offset)
  last : ∀ k ≤ bytes.length, WellFormed (bytes.take k) → k ≤ offset

theorem LastGood.unique {bytes : List UInt8} {a b : Nat} (ha : LastGood bytes a)
    (hb : LastGood bytes b) : a = b :=
  Nat.le_antisymm (hb.last a (Nat.le_of_lt ha.short) ha.good)
    (ha.last b (Nat.le_of_lt hb.short) hb.good)

theorem LastGood.not_wellFormed {bytes : List UInt8} {offset : Nat} (h : LastGood bytes offset) :
    ¬ WellFormed bytes := by
  intro all
  have whole := h.last bytes.length (Nat.le_refl _) (by rwa [List.take_length])
  exact absurd h.short (Nat.not_lt.2 whole)

theorem StopsAt.lastGood {bytes rest : List UInt8} {text : List Char} (h : StopsAt bytes text rest)
    (more : rest ≠ []) : LastGood bytes (encode text).length := by
  obtain ⟨rfl, stop⟩ := h
  refine ⟨by simpa using List.length_pos_iff.2 more, ⟨text, List.take_left⟩, ?_⟩
  rintro k - ⟨longer, taken⟩
  by_contra beyond
  rw [List.take_append, List.take_of_length_le (by omega)] at taken
  obtain ⟨tail, -, left⟩ := exists_append_of_encode_eq_append taken.symm
  obtain _ | ⟨c, tail⟩ := tail
  · have none_left := congrArg List.length left
    have some_left := List.length_pos_iff.2 more
    simp only [encode_nil, List.length_nil, List.length_take] at none_left
    omega
  · rw [← List.take_append_drop (k - (encode text).length) rest, left, encode_cons,
      List.append_assoc, decodeChar?_append] at stop
    cases stop

/-- Reading fails at the last place before which the bytes are those of a text. -/
theorem decode_eq_error_iff {bytes : List UInt8} {flaw : Flaw} : decode bytes = .error flaw ↔
    LastGood bytes flaw.offset ∧ flaw.length = flawLength? (bytes.drop flaw.offset) := by
  obtain ⟨text, rest, stops⟩ := exists_stopsAt bytes
  rw [decode_eq stops]
  obtain _ | ⟨b, more⟩ := rest
  · have all : WellFormed bytes := ⟨text, by simpa using stops.split⟩
    exact ⟨nofun, fun h => absurd all h.1.not_wellFormed⟩
  · have place := stops.lastGood (List.cons_ne_nil b more)
    have left : bytes.drop (encode text).length = b :: more := by
      rw [stops.split, List.drop_left]
    simp only [List.isEmpty_cons, Bool.false_eq_true, if_false, Except.error.injEq]
    constructor
    · rintro rfl
      exact ⟨place, by rw [left]⟩
    · rintro ⟨last, length⟩
      obtain ⟨offset, _⟩ := flaw
      obtain rfl := place.unique last
      rw [left] at length
      exact congrArg (Flaw.mk _) length.symm

theorem wellFormed_or_lastGood (bytes : List UInt8) :
    WellFormed bytes ∨ ∃ offset, LastGood bytes offset := by
  cases read : decode bytes with
  | ok text => exact .inl ⟨text, decode_eq_ok_iff.1 read⟩
  | error flaw => exact .inr ⟨flaw.offset, (decode_eq_error_iff.1 read).1⟩

end TagIndex.Text.Utf8
