import TagIndex.Proofs.Run.Reordering
import Mathlib.Logic.Relation

/-! Writing a tag file to a sink with limited room. What arrives is the beginning of the file, as
much of it as there is room for, however the records were gathered and however the bytes are cut
into calls; writing fails exactly if there is not room for all. -/

namespace TagIndex
open Text

namespace TagList

def gather (batches : List (List Tag)) : TagList := batches.foldl extend {}

theorem lines_foldl_extend (l : TagList) (batches : List (List Tag)) :
    (batches.foldl extend l).lines = l.lines ++ batches.flatten.map (·.text) := by
  induction batches generalizing l with
  | nil => simp
  | cons batch batches ih => simp [ih, extend]

theorem lines_gather (batches : List (List Tag)) :
    (gather batches).lines = batches.flatten.map (·.text) :=
  lines_foldl_extend {} batches

theorem size_gather (batches : List (List Tag)) :
    (gather batches).size = batches.flatten.length := by
  rw [size, lines_gather, List.length_map]

end TagList

def Written.result (w : Written) : Except Error Unit := sent w.failure

structure Progress where
  taken : List UInt8
  room : Nat
  left : List (List UInt8)

/-- One step of writing. A call offers what is left of a piece, and the sink takes at least one byte
of it but need not take all. -/
inductive Progress.Step : Progress → Progress → Prop
  | call {taken piece : List UInt8} {room k : Nat} {left : List (List UInt8)} (some_byte : 0 < k)
      (offered : k ≤ piece.length) (fits : k ≤ room) :
      Step ⟨taken, room, piece :: left⟩ ⟨taken ++ piece.take k, room - k, piece.drop k :: left⟩
  | next {taken : List UInt8} {room : Nat} {left : List (List UInt8)} :
      Step ⟨taken, room, [] :: left⟩ ⟨taken, room, left⟩

namespace Progress

abbrev Steps : Progress → Progress → Prop := Relation.ReflTransGen Step

/-- Nothing is left, or there is no room for it. -/
def Ended (s : Progress) : Prop := ∀ s', ¬ Step s s'

structure Sound (bytes : List UInt8) (room : Nat) (s : Progress) : Prop where
  bytes : s.taken ++ s.left.flatten = bytes
  room : s.taken.length + s.room = room

variable {bytes : List UInt8} {room : Nat} {s s' : Progress}

theorem Sound.step (h : s.Sound bytes room) (step : Step s s') : s'.Sound bytes room := by
  obtain ⟨whole, used⟩ := h
  cases step with
  | call some_byte offered fits =>
    constructor
    · rw [← whole, List.flatten_cons, List.flatten_cons, List.append_assoc,
        ← List.append_assoc (List.take _ _), List.take_append_drop]
    · simp only [List.length_append, List.length_take] at used ⊢
      omega
  | next => exact ⟨whole, used⟩

theorem Sound.steps (h : s.Sound bytes room) (steps : Steps s s') : s'.Sound bytes room := by
  induction steps with
  | refl => exact h
  | tail _ step ih => exact ih.step step

theorem ended_cases (ended : s.Ended) :
    s.left = [] ∨ s.room = 0 ∧ s.left.flatten ≠ [] := by
  obtain ⟨taken, room, _ | ⟨piece, left⟩⟩ := s
  · exact .inl rfl
  · cases piece with
    | nil => exact absurd .next (ended _)
    | cons b piece =>
      refine .inr ⟨?_, by simp⟩
      by_contra some_room
      exact ended _ (.call Nat.one_pos (by simp) (Nat.one_le_iff_ne_zero.2 some_room))

theorem Sound.ended (h : s.Sound bytes room) (ended : s.Ended) :
    s.taken = bytes.take room ∧ (s.left = [] ↔ bytes.length ≤ room) := by
  obtain ⟨whole, used⟩ := h
  obtain done | ⟨full, more⟩ := ended_cases ended
  · have all : s.taken = bytes := by simpa [done] using whole
    have short : bytes.length ≤ room := by
      rw [← all]
      omega
    exact ⟨by rw [all, List.take_of_length_le short], iff_of_true done short⟩
  · have length : s.taken.length = room := by omega
    have longer : room < bytes.length := by
      have some_left := List.length_pos_iff.2 more
      rw [← whole, List.length_append]
      omega
    refine ⟨?_, iff_of_false (fun none_left => more (by simp [none_left])) (by omega)⟩
    rw [← whole, ← length, List.take_left]

/-- How much there is left to do, in bytes and pieces. -/
def work (s : Progress) : Nat := s.left.flatten.length + s.left.length

theorem Step.decreases (step : Step s s') : s'.work < s.work := by
  unfold work
  cases step with
  | call some_byte offered fits =>
    simp only [List.flatten_cons, List.length_append, List.length_drop, List.length_cons]
    omega
  | next => simp

theorem exists_ended (s : Progress) : ∃ s', Steps s s' ∧ s'.Ended := by
  by_cases ended : s.Ended
  · exact ⟨s, .refl, ended⟩
  · obtain ⟨next, step⟩ := not_forall_not.1 ended
    have less := step.decreases
    obtain ⟨last, steps, ended⟩ := exists_ended next
    exact ⟨last, .head step steps, ended⟩
termination_by s.work

end Progress

structure Written.Delivers (file : List UInt8) (room : Nat) (cause : String) (w : Written) :
    Prop where
  bytes : w.bytes = file.take (min room file.length)
  result : w.result = if file.length ≤ room then .ok () else .error (.io cause)

structure Written.EndOf (pieces : List (List UInt8)) (room : Nat) (w : Written) : Prop where
  ends : ∃ s, Progress.Steps ⟨[], room, pieces⟩ s ∧ s.Ended
  always : ∀ s, Progress.Steps ⟨[], room, pieces⟩ s → s.Ended →
    s.taken = w.bytes ∧ (s.left = [] ↔ w.result = .ok ())

theorem Written.Delivers.endOf {file : List UInt8} {room : Nat} {cause : String} {w : Written}
    (h : w.Delivers file room cause) {pieces : List (List UInt8)} (cut : pieces.flatten = file) :
    w.EndOf pieces room := by
  refine ⟨Progress.exists_ended _, fun s steps ended => ?_⟩
  have start : Progress.Sound file room ⟨[], room, pieces⟩ := ⟨cut, Nat.zero_add room⟩
  obtain ⟨taken, all⟩ := (start.steps steps).ended ended
  refine ⟨by rw [taken, h.bytes, ← List.take_eq_take_min], ?_⟩
  rw [all, h.result]
  split_ifs <;> simp [*]

theorem Sink.delivers_write (room : Nat) (cause : String) (pieces : List (List UInt8)) :
    (Sink.write ⟨some room, cause⟩ pieces).Delivers pieces.flatten room cause := by
  rw [Sink.write_limited]
  constructor
  · exact List.take_eq_take_min
  · rw [Written.result]
    split_ifs <;> rfl

namespace TagList

theorem flatten_pieces (l : TagList) :
    l.pieces.flatten = Utf8.encode (tagFileText l.sorted) := by
  rw [← l.fileBytes_eq, fileBytes_eq_flatten]

end TagList

/-- Written to a sink that takes some bytes in all and then fails, a tag file arrives up to there.
The file is the header line and then the records of all tags in ascending order. It is the same for
all ways to gather the same records in batches, and the number of records is that of the tags so
far. However the bytes are cut into pieces and the pieces into calls, the same arrives. -/
theorem writing_delivers_prefix (batches : List (List Tag)) :
    (∀ k, (TagList.gather (batches.take k)).size = (batches.take k).flatten.length) ∧
    (∀ others : List (List Tag),
      (others.flatten.map (·.text)).Perm (batches.flatten.map (·.text)) → ∀ sink,
        (TagList.gather others).writeTo sink = (TagList.gather batches).writeTo sink) ∧
    ∃ records : List String, records.Perm (batches.flatten.map (·.text)) ∧
      records.Pairwise (fun a b => Utf8.encode a.toList ≤ Utf8.encode b.toList) ∧
      ∀ room cause,
        ((TagList.gather batches).writeTo ⟨some room, cause⟩).Delivers
          (Utf8.encode (tagFileText records)) room cause ∧
        ∀ pieces, pieces.flatten = Utf8.encode (tagFileText records) →
          ((TagList.gather batches).writeTo ⟨some room, cause⟩).EndOf pieces room := by
  have lines : (TagList.gather batches).lines = batches.flatten.map (·.text) :=
    TagList.lines_gather batches
  have delivers (room : Nat) (cause : String) :
      ((TagList.gather batches).writeTo ⟨some room, cause⟩).Delivers
        (Utf8.encode (tagFileText (TagList.gather batches).sorted)) room cause := by
    rw [← TagList.flatten_pieces]
    exact Sink.delivers_write room cause _
  refine ⟨fun k => TagList.size_gather _, fun others perm => ?_,
    (TagList.gather batches).sorted, ?_, TagList.pairwise_sorted _,
    fun room cause => ⟨delivers room cause, fun pieces cut => (delivers room cause).endOf cut⟩⟩
  · refine TagList.writeTo_congr ?_
    rwa [TagList.lines_gather, lines]
  · rw [← lines]
    exact TagList.sorted_perm _

/-- The sink is full between a record and its line feed. -/
example : ((TagList.gather [[⟨"a", "f", 1, .type⟩]]).writeTo ⟨some 30, "sink full"⟩).result =
    .error (.io "sink full") := by
  decide +kernel

end TagIndex
