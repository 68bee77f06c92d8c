import TagIndex.Tag.File
import Mathlib.Data.List.Basic

/-! Writing piece by piece to a place with limited room: the beginning of the bytes arrives, and
nothing is reported exactly if there is room for all. -/

namespace TagIndex

variable {sink : Sink} {pieces : List (List UInt8)}

theorem Sink.write_roomy (cause : String) (pieces : List (List UInt8)) :
    Sink.write ⟨none, cause⟩ pieces = ⟨pieces.flatten, none⟩ := by
  induction pieces with
  | nil => rfl
  | cons piece pieces ih =>
    rw [write]
    dsimp only
    rw [ih, List.flatten_cons]

theorem Sink.write_limited (room : Nat) (cause : String) (pieces : List (List UInt8)) :
    Sink.write ⟨some room, cause⟩ pieces = ⟨pieces.flatten.take room,
      if pieces.flatten.length ≤ room then none else some cause⟩ := by
  induction pieces generalizing room with
  | nil => simp [write]
  | cons piece pieces ih =>
    rw [write]
    dsimp only
    by_cases fits : piece.length ≤ room
    · have first : (piece :: pieces).flatten.take room =
          piece ++ pieces.flatten.take (room - piece.length) := by
        rw [List.flatten_cons, List.take_append, List.take_of_length_le fits]
      have bound : pieces.flatten.length ≤ room - piece.length ↔
          (piece :: pieces).flatten.length ≤ room := by
        simp only [List.flatten_cons, List.length_append]
        omega
      rw [if_pos fits, ih, first]
      simp only [bound]
    · have first : (piece :: pieces).flatten.take room = piece.take room :=
        List.take_append_of_le_length (Nat.le_of_not_le fits)
      have bound : ¬ (piece :: pieces).flatten.length ≤ room := by
        simp only [List.flatten_cons, List.length_append]
        omega
      rw [if_neg fits, if_neg bound, first]

theorem Sink.write_prefix (sink : Sink) (pieces : List (List UInt8)) :
    (sink.write pieces).bytes <+: pieces.flatten := by
  obtain ⟨_ | room, cause⟩ := sink
  · simp [write_roomy]
  · rw [write_limited]
    exact List.take_prefix _ _

theorem Sink.bytes_write (taken : (sink.write pieces).failure = none) :
    (sink.write pieces).bytes = pieces.flatten := by
  obtain ⟨_ | room, cause⟩ := sink
  · rw [write_roomy]
  · rw [write_limited] at taken ⊢
    split at taken
    · exact List.take_of_length_le ‹_›
    · cases taken

theorem Sink.failure_write {cause : String} (failed : (sink.write pieces).failure = some cause) :
    cause = sink.failure ∧ ∃ room, sink.room = some room ∧ room < pieces.flatten.length := by
  obtain ⟨_ | room, text⟩ := sink
  · rw [write_roomy] at failed
    cases failed
  · rw [write_limited] at failed
    split at failed
    · cases failed
    · exact ⟨(Option.some.inj failed).symm, room, rfl, Nat.lt_of_not_le ‹_›⟩

namespace TagList

variable {l : TagList}

def Fits (l : TagList) (sink : Sink) : Prop := (l.writeTo sink).failure = none

theorem fits_unlimited (l : TagList) : l.Fits .unlimited := by
  rw [Fits, writeTo, Sink.unlimited, Sink.write_roomy]

theorem fileBytes_eq_flatten (l : TagList) : l.fileBytes = l.pieces.flatten := by
  rw [fileBytes, writeTo, Sink.unlimited, Sink.write_roomy]

theorem Fits.bytes_writeTo (fits : l.Fits sink) : (l.writeTo sink).bytes = l.fileBytes := by
  rw [fileBytes_eq_flatten]
  exact Sink.bytes_write fits

theorem writeTo_ne_of_failure {cause : String} (failed : (l.writeTo sink).failure = some cause) :
    (l.writeTo sink).bytes ≠ l.fileBytes := by
  obtain ⟨-, room, limited, short⟩ := Sink.failure_write failed
  obtain ⟨_, text⟩ := sink
  obtain rfl : _ = some room := limited
  rw [fileBytes_eq_flatten, writeTo, Sink.write_limited]
  intro whole
  have length := congrArg List.length whole
  rw [List.length_take] at length
  omega

theorem writeTo_prefix (l : TagList) (sink : Sink) : (l.writeTo sink).bytes <+: l.fileBytes := by
  rw [fileBytes_eq_flatten]
  exact sink.write_prefix l.pieces

end TagList
end TagIndex
