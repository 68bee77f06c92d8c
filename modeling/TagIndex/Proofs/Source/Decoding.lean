import TagIndex.Error
import TagIndex.Proofs.Text.Lines
import TagIndex.Proofs.Text.Sequences
import TagIndex.Source.Reading

/-! Bytes are read as source text exactly when they are well-formed UTF-8, and else they are refused
at the first byte that the well-formed start does not reach. -/

namespace TagIndex
open Text

structure LongestUtf8 (bytes : List UInt8) (length : Nat) : Prop where
  within : length ≤ bytes.length
  isUtf8 : Utf8.IsUtf8 (bytes.take length)
  longest : ∀ k ≤ bytes.length, Utf8.IsUtf8 (bytes.take k) → k ≤ length

theorem longestUtf8_of_lastGood {bytes : List UInt8} {offset : Nat}
    (h : Utf8.LastGood bytes offset) : LongestUtf8 bytes offset :=
  ⟨Nat.le_of_lt h.short, Utf8.isUtf8_iff_wellFormed.2 h.good,
    fun k within isUtf8 => h.last k within (Utf8.isUtf8_iff_wellFormed.1 isUtf8)⟩

theorem decodeText_eq_ok_iff {bytes : List UInt8} {source : String} :
    decodeText bytes = .ok source ↔ Utf8.encode source.toList = bytes := by
  unfold decodeText
  cases read : Utf8.decode bytes with
  | error flaw =>
    refine iff_of_false nofun fun encoded => ?_
    rw [Utf8.decode_eq_ok_iff.2 encoded.symm] at read
    cases read
  | ok text =>
    rw [Utf8.decode_eq_ok_iff.1 read]
    constructor
    · rintro ⟨rfl⟩
      rw [String.toList_ofList]
    · intro encoded
      rw [← Utf8.encode_injective encoded]
      simp

theorem decodeText_of_lastGood {bytes : List UInt8} {offset : Nat}
    (h : Utf8.LastGood bytes offset) :
    decodeText bytes = .error ⟨positionAt bytes offset, .illegalEncoding⟩ := by
  have flawed : Utf8.decode bytes = .error ⟨offset, Utf8.flawLength? (bytes.drop offset)⟩ :=
    Utf8.decode_eq_error_iff.2 ⟨h, rfl⟩
  rw [decodeText, flawed]

/-- Reading bytes as text undoes encoding text as bytes, and refuses all other bytes. The message
then gives the place where the longest well-formed start ends: its line, and its column in bytes. -/
theorem decoding_inverts_encoding (path : String) (bytes : List UInt8) :
    ((∃ source, decodeText bytes = .ok source) ↔ Utf8.IsUtf8 bytes) ∧
    (∀ source, decodeText bytes = .ok source ↔ Utf8.encode source.toList = bytes) ∧
    (¬ Utf8.IsUtf8 bytes → ∃ d length before line,
      (decodeText bytes).mapError (Error.parseFailed path) = .error (.parseFailed path d) ∧
      LongestUtf8 bytes length ∧ LastLine (bytes.take length) before line ∧
      d.message path = path ++ ":" ++ toString (1 + (bytes.take length).count lineFeed) ++ ":" ++
        toString (1 + line.length) ++ ": illegal UTF-8 encoding") := by
  refine ⟨?_, fun source => decodeText_eq_ok_iff, fun illFormed => ?_⟩
  · simp only [decodeText_eq_ok_iff, Utf8.isUtf8_iff_wellFormed]
    constructor
    · rintro ⟨source, encoded⟩
      exact ⟨source.toList, encoded.symm⟩
    · rintro ⟨text, encoded⟩
      exact ⟨String.ofList text, by rw [String.toList_ofList, encoded]⟩
  · obtain whole | ⟨offset, last⟩ := Utf8.wellFormed_or_lastGood bytes
    · exact absurd (Utf8.isUtf8_iff_wellFormed.2 whole) illFormed
    · obtain ⟨before, line, split⟩ := exists_lastLine (bytes.take offset)
      refine ⟨⟨positionAt bytes offset, .illegalEncoding⟩, offset, before, line, ?_,
        longestUtf8_of_lastGood last, split, ?_⟩
      · rw [decodeText_of_lastGood last]
        rfl
      · have detail : ": " ++ Fault.message .illegalEncoding = ": illegal UTF-8 encoding" := rfl
        simp only [split.positionAt, Diagnostic.message, Nat.add_comm 1, ← detail,
          String.append_assoc]

end TagIndex
