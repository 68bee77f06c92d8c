import TagIndex.Text.Position
import Mathlib.Data.List.Induction

/-! The lines of a text and the numbers that positions give them. -/

namespace TagIndex.Text

def linesOf (bytes : List UInt8) : List (List UInt8) := bytes.splitOn lineFeed

theorem linesOf_cons (b : UInt8) (bytes : List UInt8) : linesOf (b :: bytes) =
    if b = lineFeed then [] :: linesOf bytes else (linesOf bytes).modifyHead (b :: ·) := by
  simp only [linesOf, List.splitOn_cons_eq_if_modifyHead, beq_iff_eq]

theorem exists_first_line {word : List UInt8} (whole : lineFeed ∉ word) (rest : List UInt8) :
    ∃ line lines, linesOf (word ++ rest) = line :: lines ∧ word <+: line := by
  induction word with
  | nil =>
    cases split : linesOf rest with
    | nil => simp [linesOf] at split
    | cons line lines => exact ⟨line, lines, split, List.nil_prefix⟩
  | cons b word ih =>
    obtain ⟨other, whole⟩ := not_or.1 (mt List.mem_cons.2 whole)
    obtain ⟨line, lines, split, first⟩ := ih whole
    refine ⟨b :: line, lines, ?_, List.cons_prefix_cons.2 ⟨rfl, first⟩⟩
    rw [List.cons_append, linesOf_cons, if_neg (Ne.symm other), split]
    rfl

theorem exists_line {word : List UInt8} (whole : lineFeed ∉ word) (before rest : List UInt8) :
    ∃ line, (linesOf (before ++ word ++ rest))[before.count lineFeed]? = some line ∧
      word <:+: line := by
  induction before with
  | nil =>
    obtain ⟨line, lines, split, first⟩ := exists_first_line whole rest
    exact ⟨line, by simp [split], first.isInfix⟩
  | cons b before ih =>
    obtain ⟨line, found, within⟩ := ih
    rw [List.cons_append, List.cons_append, linesOf_cons]
    by_cases feed : b = lineFeed
    · exact ⟨line, by simpa [feed] using found, within⟩
    · rw [if_neg feed, List.count_cons_of_ne feed]
      cases split : linesOf (before ++ word ++ rest) with
      | nil => exact absurd split (List.splitOn_ne_nil _ _)
      | cons first lines =>
        rw [split] at found
        cases count : before.count lineFeed with
        | zero =>
          obtain rfl : first = line := by simpa [count] using found
          exact ⟨b :: first, rfl, within.trans (List.suffix_cons b first).isInfix⟩
        | succ n => exact ⟨line, by simpa [count] using found, within⟩

structure LastLine (bytes before line : List UInt8) : Prop where
  split : bytes = before ++ line
  start : before = [] ∨ before.getLast? = some lineFeed
  whole : lineFeed ∉ line

theorem exists_lastLine (bytes : List UInt8) : ∃ before line, LastLine bytes before line := by
  induction bytes using List.reverseRecOn with
  | nil => exact ⟨[], [], rfl, .inl rfl, List.not_mem_nil⟩
  | append_singleton bytes b ih =>
    by_cases feed : b = lineFeed
    · subst feed
      exact ⟨bytes ++ [lineFeed], [], by simp, .inr List.getLast?_concat, List.not_mem_nil⟩
    · obtain ⟨before, line, rfl, start, whole⟩ := ih
      refine ⟨before, line ++ [b], List.append_assoc .., start, ?_⟩
      rw [List.mem_append, List.mem_singleton]
      exact not_or.2 ⟨whole, Ne.symm feed⟩

theorem LastLine.positionAt {bytes before line : List UInt8} {offset : Nat}
    (h : LastLine (bytes.take offset) before line) :
    positionAt bytes offset = ⟨(bytes.take offset).count lineFeed + 1, line.length + 1⟩ := by
  have none_before : (before.reverse.takeWhile (· ≠ lineFeed)) = [] := by
    obtain rfl | ends := h.start
    · rfl
    · obtain ⟨front, rfl⟩ := List.getLast?_eq_some_iff.1 ends
      simp
  have all_line : ∀ b ∈ line.reverse, decide (b ≠ lineFeed) = true := by
    intro b mem
    have differ : b ≠ lineFeed := ne_of_mem_of_not_mem (List.mem_reverse.1 mem) h.whole
    simpa using differ
  rw [Text.positionAt, h.split, List.reverse_append, List.takeWhile_append_of_pos all_line,
    none_before, List.append_nil, List.length_reverse]

end TagIndex.Text
