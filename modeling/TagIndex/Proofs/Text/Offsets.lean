import Mathlib.Data.List.Nodup
import Mathlib.Data.Nat.SuccPred
import Mathlib.Data.Prod.Lex
import TagIndex.Proofs.Text.Lines

/-! Offsets of a text and their positions. Positions come in the order of the offsets, every
position gives its offset back, and counting lines and columns takes no numbers beyond the length of
the text. -/

namespace TagIndex.Text

variable {bytes before line : List UInt8} {offset start : Nat} {p : Position}

theorem positionAt_succ_of_lineFeed (feed : bytes[offset]? = some lineFeed) :
    positionAt bytes (offset + 1) = ⟨(positionAt bytes offset).line + 1, 1⟩ := by
  simp [positionAt, List.take_add_one, feed]

theorem positionAt_succ_of_other {b : UInt8} (stands : bytes[offset]? = some b)
    (other : b ≠ lineFeed) : positionAt bytes (offset + 1) =
      ⟨(positionAt bytes offset).line, (positionAt bytes offset).column + 1⟩ := by
  simp [positionAt, List.take_add_one, stands, other]

/-- Where a position comes in the order of reading: by its line, and within a line by its column. -/
def Position.rank (p : Position) : ℕ ×ₗ ℕ := toLex (p.line, p.column)

theorem rank_lt_succ (within : offset < bytes.length) :
    (positionAt bytes offset).rank < (positionAt bytes (offset + 1)).rank := by
  have stands : bytes[offset]? = some bytes[offset] := List.getElem?_eq_getElem within
  by_cases feed : bytes[offset] = lineFeed
  · rw [positionAt_succ_of_lineFeed (stands.trans (congrArg some feed))]
    exact Prod.Lex.toLex_lt_toLex.2 (.inl (Nat.lt_succ_self _))
  · rw [positionAt_succ_of_other stands feed]
    exact Prod.Lex.toLex_lt_toLex.2 (.inr ⟨rfl, Nat.lt_succ_self _⟩)

theorem strictMonoOn_rank (bytes : List UInt8) :
    StrictMonoOn (fun offset => (positionAt bytes offset).rank) (Set.Iic bytes.length) :=
  strictMonoOn_of_lt_add_one Set.ordConnected_Iic fun _ _ _ within => rank_lt_succ within

/-- Where the lines of a text start: at its beginning, and behind every line feed. -/
def lineStarts (bytes : List UInt8) : List Nat := 0 :: (bytes.idxsOf lineFeed).map (· + 1)

theorem nodup_lineStarts (bytes : List UInt8) : (lineStarts bytes).Nodup := by
  have apart : ((bytes.idxsOf lineFeed).map (· + 1)).Nodup :=
    List.Nodup.map (add_left_injective 1) List.nodup_idxsOf
  simpa [lineStarts] using apart

theorem mem_lineStarts_iff : start ∈ lineStarts bytes ↔
    start = 0 ∨ ∃ feed, bytes[feed]? = some lineFeed ∧ feed + 1 = start := by
  simp [lineStarts, List.getElem?_eq_some_iff]

theorem LastLine.length_add (h : LastLine (bytes.take offset) before line)
    (within : offset ≤ bytes.length) : before.length + line.length = offset := by
  rw [← List.length_append, ← h.split, List.length_take_of_le within]

theorem LastLine.getElem?_lineStarts (h : LastLine (bytes.take offset) before line) :
    (lineStarts bytes)[(bytes.take offset).count lineFeed]? = some before.length := by
  have whole : line.count lineFeed = 0 := List.count_eq_zero.2 h.whole
  have split : bytes = before ++ (line ++ bytes.drop offset) := by
    rw [← List.append_assoc, ← h.split, List.take_append_drop]
  obtain rfl | ends := h.start
  · simp [h.split, whole, lineStarts]
  · obtain ⟨front, rfl⟩ := List.getLast?_eq_some_iff.1 ends
    have counted : (bytes.take offset).count lineFeed = front.count lineFeed + 1 := by
      simp [h.split, whole]
    rw [counted, split]
    simp [lineStarts]

theorem lastLine_of_mem_lineStarts (listed : start ∈ lineStarts bytes) (before : start ≤ offset)
    (whole : lineFeed ∉ (bytes.take offset).drop start) :
    LastLine (bytes.take offset) (bytes.take start) ((bytes.take offset).drop start) := by
  refine ⟨?_, ?_, whole⟩
  · have first : bytes.take start = (bytes.take offset).take start := by
      rw [List.take_take, min_eq_left before]
    rw [first, List.take_append_drop]
  · obtain rfl | ⟨feed, stands, rfl⟩ := mem_lineStarts_iff.1 listed
    · exact .inl List.take_zero
    · right
      simp [List.take_add_one, stands]

structure Position.Locates (bytes : List UInt8) (p : Position) (offset : Nat) : Prop where
  line_pos : 1 ≤ p.line
  column_pos : 1 ≤ p.column
  start : ∃ start, (lineStarts bytes)[p.line - 1]? = some start ∧
    offset = start + (p.column - 1) ∧ lineFeed ∉ (bytes.take offset).drop start

theorem locates_positionAt (within : offset ≤ bytes.length) :
    (positionAt bytes offset).Locates bytes offset := by
  obtain ⟨before, line, last⟩ := exists_lastLine (bytes.take offset)
  rw [last.positionAt]
  refine ⟨Nat.le_add_left .., Nat.le_add_left .., before.length, last.getElem?_lineStarts,
    (last.length_add within).symm, ?_⟩
  rw [last.split, List.drop_left]
  exact last.whole

theorem locates_iff (within : offset ≤ bytes.length) :
    p.Locates bytes offset ↔ p = positionAt bytes offset := by
  refine ⟨fun h => ?_, fun h => h ▸ locates_positionAt within⟩
  obtain ⟨start, starts, apart, whole⟩ := h.start
  have last := lastLine_of_mem_lineStarts (List.mem_of_getElem? starts) (by omega) whole
  have length : (bytes.take start).length = start := List.length_take_of_le (by omega)
  have lines : p.line - 1 = (bytes.take offset).count lineFeed := by
    refine (List.getElem?_inj (List.getElem?_eq_some_iff.1 starts).1 (nodup_lineStarts bytes)).1 ?_
    rw [starts, last.getElem?_lineStarts, length]
  have columns := last.length_add within
  have line_pos := h.line_pos
  have column_pos := h.column_pos
  have line_eq : (bytes.take offset).count lineFeed + 1 = p.line := by omega
  have column_eq : ((bytes.take offset).drop start).length + 1 = p.column := by omega
  rw [last.positionAt, line_eq, column_eq]

/-- Two line feeds one after the other, the offset behind them, and the end of the text. -/
example : (List.range 5).map (positionAt [97, 10, 10, 98]) =
    [⟨1, 1⟩, ⟨1, 2⟩, ⟨2, 1⟩, ⟨3, 1⟩, ⟨3, 2⟩] := by decide

/-- What a machine counts whose numbers end at a limit, and whether a sum had to stay at the limit
or a difference at zero on the way. -/
structure Counter where
  value : Nat
  saturated : Bool
deriving DecidableEq, Repr

namespace Counter

def exact (n : Nat) : Counter := ⟨n, false⟩

/-- The sum, or the limit if the sum exceeds it. -/
def addUpTo (limit : Nat) (c : Counter) (n : Nat) : Counter :=
  ⟨min (c.value + n) limit, c.saturated || decide (limit < c.value + n)⟩

/-- What is left of a number, which is zero if there is more to take away. -/
def takenFrom (n : Nat) (c : Counter) : Counter :=
  ⟨n - c.value, c.saturated || decide (n < c.value)⟩

variable {limit m n : Nat}

theorem addUpTo_exact (room : m + n ≤ limit) : (exact m).addUpTo limit n = exact (m + n) := by
  simp [addUpTo, exact, room, Nat.not_lt.2 room]

theorem takenFrom_exact (enough : m ≤ n) : (exact m).takenFrom n = exact (n - m) := by
  simp [takenFrom, exact, Nat.not_lt.2 enough]

end Counter

def countedStart (limit : Nat) (before : List UInt8) : Counter :=
  match (before.idxsOf lineFeed).getLast? with
  | some feed => (Counter.exact feed).addUpTo limit 1
  | none => .exact 0

/-- The line and the column of an offset as a machine counts them: the line feeds before the offset,
and the bytes between the start of the line and the offset. -/
def countedPosition (limit : Nat) (bytes : List UInt8) (offset : Nat) : Counter × Counter :=
  let before := bytes.take offset
  ((Counter.exact (before.count lineFeed)).addUpTo limit 1,
    ((countedStart limit before).takenFrom offset).addUpTo limit 1)

variable {limit : Nat}

theorem LastLine.countedStart (h : LastLine bytes before line) (room : bytes.length ≤ limit) :
    countedStart limit bytes = .exact before.length := by
  have none_behind : line.idxsOf lineFeed before.length = [] := by
    rw [← List.length_eq_zero_iff, List.length_idxsOf, List.count_eq_zero]
    exact h.whole
  have feeds : bytes.idxsOf lineFeed = before.idxsOf lineFeed := by
    rw [h.split, List.idxsOf_append, Nat.zero_add, none_behind, List.append_nil]
  obtain rfl | ends := h.start
  · simp [Text.countedStart, feeds]
  · obtain ⟨front, rfl⟩ := List.getLast?_eq_some_iff.1 ends
    have short : front.length + 1 ≤ limit := by
      refine le_trans ?_ room
      simp [h.split]
    have feed : (front ++ [lineFeed]).idxsOf lineFeed =
        front.idxsOf lineFeed ++ [front.length] := by simp
    rw [Text.countedStart, feeds, feed, List.getLast?_concat]
    simpa using Counter.addUpTo_exact short

theorem countedPosition_eq (room : bytes.length < limit) (within : offset ≤ bytes.length) :
    countedPosition limit bytes offset =
      (.exact (positionAt bytes offset).line, .exact (positionAt bytes offset).column) := by
  obtain ⟨before, line, last⟩ := exists_lastLine (bytes.take offset)
  have length := last.length_add within
  have taken : (bytes.take offset).length = offset := List.length_take_of_le within
  have feeds : (bytes.take offset).count lineFeed ≤ offset := List.count_le_length.trans_eq taken
  have start : countedStart limit (bytes.take offset) = .exact before.length :=
    last.countedStart (by omega)
  rw [countedPosition, start, Counter.addUpTo_exact (by omega), Counter.takenFrom_exact (by omega),
    Counter.addUpTo_exact (by omega), last.positionAt, ← length, Nat.add_sub_cancel_left]

end TagIndex.Text
