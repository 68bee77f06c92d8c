import TagIndex.Error
import TagIndex.Proofs.Text.Sequences
import TagIndex.Proofs.Tree.Places
import Mathlib.Data.List.DropRight
import Mathlib.Data.List.Infix

/-! What is shown of text that fits nowhere. Lines are cut, trimmed and searched for one that is not
blank; what is found is the text without its blanks in front, as far as its first line goes. -/

namespace TagIndex
open Text

namespace Text

theorem trim_eq (text : List Char) : trim text = (text.dropWhile isBlank).rdropWhile isBlank := rfl

variable {c : Char} {line : List Char}

theorem trim_cons_of_blank (blank : isBlank c = true) (line : List Char) :
    trim (c :: line) = trim line := by
  rw [trim, List.dropWhile_cons_of_pos blank, trim]

theorem trim_concat_of_blank (blank : isBlank c = true) (line : List Char) :
    trim (line ++ [c]) = trim line := by
  rw [trim_eq, trim_eq, List.dropWhile_append]
  split
  · rename_i empty
    rw [List.isEmpty_iff.1 empty, List.dropWhile_cons_of_pos blank, List.dropWhile_nil]
  · rw [List.rdropWhile_concat_pos _ _ _ blank]

theorem trim_dropReturn (line : List Char) : trim (dropReturn line) = trim line := by
  unfold dropReturn
  split
  · rename_i ends
    obtain ⟨front, rfl⟩ := List.getLast?_eq_some_iff.1 ends
    rw [List.dropLast_concat, trim_concat_of_blank (by decide)]
  · rfl

/-- The first line that is not blank, trimmed. -/
def firstLine? (lines : List (List Char)) : Option (List Char) :=
  (lines.map trim).find? (!·.isEmpty)

theorem firstLine?_concat_nil (lines : List (List Char)) :
    firstLine? (lines ++ [[]]) = firstLine? lines := by
  have nothing : trim [] = [] := rfl
  simp [firstLine?, nothing]

theorem firstLine?_lines (text : List Char) :
    firstLine? (lines text) = firstLine? (text.splitOn '\n') := by
  have ended (pieces : List (List Char)) :
      firstLine? (pieces.map dropReturn) = firstLine? pieces := by
    simp [firstLine?, Function.comp_def, trim_dropReturn]
  have concat (pieces : List (List Char)) (line : List Char) :
      firstLine? (pieces.map dropReturn ++ [line]) = firstLine? (pieces ++ [line]) := by
    simp [firstLine?, Function.comp_def, trim_dropReturn]
  obtain none_left | ⟨pieces, last, split⟩ := List.eq_nil_or_concat (text.splitOn '\n')
  · exact absurd none_left (List.splitOn_ne_nil _ _)
  · simp only [lines, split, List.concat_eq_append, List.dropLast_concat, List.getLast?_concat]
    cases last with
    | nil => rw [ended, firstLine?_concat_nil]
    | cons c line => exact concat pieces (c :: line)

theorem exists_splitOn_eq (text : List Char) :
    ∃ rest, text.splitOn '\n' = text.takeWhile (· ≠ '\n') :: rest := by
  induction text with
  | nil => exact ⟨[], rfl⟩
  | cons c text ih =>
    obtain ⟨rest, split⟩ := ih
    rw [List.splitOn_cons_eq_if_modifyHead, split]
    by_cases feed : c = '\n'
    · exact ⟨_, by simp [feed]; rfl⟩
    · exact ⟨rest, by simp [feed]⟩

theorem firstLine?_nil_cons (rest : List (List Char)) : firstLine? ([] :: rest) = firstLine? rest :=
  rfl

theorem firstLine?_cons_of_blank (blank : isBlank c = true) (line : List Char)
    (rest : List (List Char)) : firstLine? ((c :: line) :: rest) = firstLine? (line :: rest) := by
  rw [firstLine?, List.map_cons, trim_cons_of_blank blank, ← List.map_cons, firstLine?]

theorem firstLine?_cons_of_not_blank (visible : ¬ isBlank c = true) (line : List Char)
    (rest : List (List Char)) :
    firstLine? ((c :: line) :: rest) = some ((c :: line).rdropWhile isBlank) := by
  have some_left : (c :: line).rdropWhile isBlank ≠ [] := by
    rw [ne_eq, List.rdropWhile_eq_nil_iff]
    exact fun all => visible (all c List.mem_cons_self)
  rw [firstLine?, List.map_cons, trim_eq, List.dropWhile_cons_of_neg visible]
  exact List.find?_cons_of_pos (by simpa using some_left)

theorem firstLine?_splitOn (text : List Char) : firstLine? (text.splitOn '\n') =
    if text.dropWhile isBlank = [] then none
    else some (((text.dropWhile isBlank).takeWhile (· ≠ '\n')).rdropWhile isBlank) := by
  induction text with
  | nil => rfl
  | cons c text ih =>
    obtain ⟨rest, split⟩ := exists_splitOn_eq text
    rw [List.splitOn_cons_eq_if_modifyHead]
    by_cases feed : c = '\n'
    · have blank : isBlank c = true := by
        rw [feed]
        decide
      rw [if_pos (by simpa using feed), firstLine?_nil_cons, ih, List.dropWhile_cons_of_pos blank]
    · rw [if_neg (by simpa using feed), split, List.modifyHead_cons]
      by_cases blank : isBlank c = true
      · rw [firstLine?_cons_of_blank blank, ← split, ih, List.dropWhile_cons_of_pos blank]
      · have first : (c :: text).takeWhile (· ≠ '\n') = c :: text.takeWhile (· ≠ '\n') :=
          List.takeWhile_cons_of_pos (by simpa using feed)
        rw [firstLine?_cons_of_not_blank blank, List.dropWhile_cons_of_neg blank, first,
          if_neg (List.cons_ne_nil _ _)]

end Text

/-- A text without the blanks in front. -/
def visibleText (text : List Char) : List Char := text.dropWhile isBlank

/-- The first 24 characters of the part before the first line feed, which loses the blanks at its
end first. -/
def snippetOf (text : List Char) : List Char :=
  ((text.takeWhile (· ≠ '\n')).rdropWhile isBlank).take 24

theorem snippet_eq (text : String) : snippet text =
    if visibleText text.toList = [] then none
    else some (String.ofList (snippetOf (visibleText text.toList))) := by
  have found := firstLine?_lines text.toList
  rw [firstLine?_splitOn] at found
  unfold firstLine? at found
  rw [snippet, found]
  unfold visibleText snippetOf snippetLength
  split_ifs <;> rfl

theorem visibleText_infix (text : List Char) : visibleText text <:+: text :=
  (List.dropWhile_suffix _).isInfix

theorem not_isBlank_of_visibleText {text rest : List Char} {c : Char}
    (starts : visibleText text = c :: rest) : ¬ isBlank c = true := by
  have first := List.head?_dropWhile_not isBlank text
  unfold visibleText at starts
  simpa [starts] using first

section

variable (text : List Char)

theorem snippetOf_prefix_self : snippetOf text <+: text :=
  ((List.take_prefix _ _).trans (List.rdropWhile_prefix _ _)).trans (List.takeWhile_prefix _)

theorem length_snippetOf_le : (snippetOf text).length ≤ 24 := List.length_take_le _ _

theorem newline_not_mem_snippetOf : '\n' ∉ snippetOf text := by
  intro mem
  have within := (List.rdropWhile_prefix _ _).subset (List.mem_of_mem_take mem)
  simpa using List.mem_takeWhile_imp within

end

theorem head?_snippetOf {c : Char} {rest : List Char} (visible : ¬ isBlank c = true) :
    (snippetOf (c :: rest)).head? = some c := by
  have other : c ≠ '\n' := by
    rintro rfl
    exact visible (by decide)
  have first : (c :: rest).takeWhile (· ≠ '\n') = c :: rest.takeWhile (· ≠ '\n') :=
    List.takeWhile_cons_of_pos (by simpa using other)
  have nonempty : snippetOf (c :: rest) ≠ [] := by
    rw [snippetOf, first, ne_eq, List.take_eq_nil_iff, List.rdropWhile_eq_nil_iff]
    rintro (none_shown | all)
    · cases none_shown
    · exact visible (all c List.mem_cons_self)
  obtain ⟨d, shown, split⟩ := List.exists_cons_of_ne_nil nonempty
  have starts := snippetOf_prefix_self (c :: rest)
  rw [split, List.cons_prefix_cons] at starts
  rw [split, List.head?_cons, starts.1]

namespace Tree

def ownText (source : String) (t : Tree) : List Char := ((t.textIn source).toOption.getD "").toList

variable {source : String} {t : Tree}

theorem ownText_infix (source : String) (t : Tree) : t.ownText source <:+: source.toList := by
  unfold ownText textIn
  cases read : Utf8.decode (t.bytesIn source) with
  | error flaw => exact List.nil_infix
  | ok text =>
    by_cases empty : text = []
    · rw [empty]
      exact List.nil_infix
    · have bytes := Utf8.decode_eq_ok_iff.1 read
      rw [bytesIn, ByteArray.data_extract, Array.toList_extract, toByteArray_toList] at bytes
      have split : Utf8.encode source.toList =
          (Utf8.encode source.toList).take t.label.start.byte ++ (Utf8.encode text ++
            ((Utf8.encode source.toList).drop t.label.start.byte).drop
              (t.label.stop - t.label.start.byte)) := by
        rw [← bytes, List.extract_eq_take_drop]
        simp
      change (String.ofList text).toList <:+: _
      rw [String.toList_ofList]
      exact Utf8.infix_of_encode_eq empty split

theorem fault_of_present (present : t.label.missing = false) :
    t.fault source = .unexpected (if visibleText (t.ownText source) = [] then none
      else some (String.ofList (snippetOf (visibleText (t.ownText source))))) := by
  rw [Tree.fault, if_neg (by simp [present]), snippet_eq]
  rfl

end Tree

theorem newline_not_mem_toString (n : Nat) : '\n' ∉ (toString n).toList := by
  rw [Nat.toString_eq_repr, Nat.toList_repr]
  intro mem
  have digit : Char.isDigit '\n' = true :=
    Nat.isDigit_of_mem_toDigits (by decide) (by decide) mem
  exact absurd digit (by decide)

theorem newline_mem_around_iff {path row column detail : String} (line : '\n' ∉ detail.toList)
    (row' : '\n' ∉ row.toList) (column' : '\n' ∉ column.toList) :
    '\n' ∈ ("error parsing file " ++ path ++ " - " ++
      (path ++ ":" ++ row ++ ":" ++ column ++ ": " ++ detail)).toList ↔ '\n' ∈ path.toList := by
  have texts : '\n' ∉ "error parsing file ".toList ∧ '\n' ∉ " - ".toList ∧
      '\n' ∉ ":".toList ∧ '\n' ∉ ": ".toList := by decide
  simp only [String.toList_append, List.mem_append]
  grind only

theorem newline_mem_message_iff {d : Diagnostic} (line : '\n' ∉ d.fault.message.toList)
    (path : String) : '\n' ∈ (Error.parseFailed path d).message.toList ↔ '\n' ∈ path.toList :=
  newline_mem_around_iff line (newline_not_mem_toString _) (newline_not_mem_toString _)

theorem newline_not_mem_unexpected {shown : List Char} (line : '\n' ∉ shown) :
    '\n' ∉ ("unexpected " ++ String.ofList shown).toList := by
  have text : '\n' ∉ "unexpected ".toList := by decide
  rw [String.toList_append, List.mem_append, @String.toList_ofList shown]
  exact not_or.2 ⟨text, line⟩

theorem unexpected_eq_token_iff (shown : List Char) :
    "unexpected " ++ String.ofList shown = "unexpected token" ↔
      shown = ['t', 'o', 'k', 'e', 'n'] := by
  have whole : "unexpected token" = "unexpected " ++ String.ofList ['t', 'o', 'k', 'e', 'n'] := rfl
  rw [whole, String.append_right_inj, String.ofList_inj]

/-- Text that fits nowhere is reported by its snippet. The text is read from its first character on
that is not blank; its part before the first line feed loses the blanks at its end, and of the rest
24 characters are shown. Where there are only blanks nothing is shown, and the report is of a token.
It reads the same where the snippet is the word `token`, and nowhere else. A snippet is not empty
and begins with the first visible character. It is a piece of the source, has no line feed, and puts
none into the message. -/
theorem unexpected_text_is_shown {source : String} {t : Tree}
    (present : t.label.missing = false) :
    ((t.fault source).message = "unexpected token" ↔ visibleText (t.ownText source) = [] ∨
      (((visibleText (t.ownText source)).takeWhile (· ≠ '\n')).rdropWhile isBlank).take 24 =
        ['t', 'o', 'k', 'e', 'n']) ∧
    (t.fault source = .unexpected none ↔ visibleText (t.ownText source) = []) ∧
    (∀ c rest, visibleText (t.ownText source) = c :: rest → ∃ shown,
      shown = (((c :: rest).takeWhile (· ≠ '\n')).rdropWhile isBlank).take 24 ∧
      (t.fault source).message = "unexpected " ++ String.ofList shown ∧
      shown.head? = some c ∧ shown.length ≤ 24 ∧ '\n' ∉ shown ∧ shown <:+: source.toList) ∧
    ∀ path, '\n' ∈ (Error.parseFailed path (t.diagnose (t.fault source))).message.toList ↔
      '\n' ∈ path.toList := by
  have fault := @Tree.fault_of_present source t present
  refine ⟨?_, ?_, fun c rest starts => ?_, newline_mem_message_iff ?_⟩
  · rw [fault]
    split_ifs with blank
    · exact iff_of_true rfl (.inl blank)
    · rw [or_iff_right blank]
      exact unexpected_eq_token_iff _
  · rw [fault]
    split_ifs with blank <;> simp [blank]
  · refine ⟨snippetOf (c :: rest), rfl, ?_, ?_, ?_, ?_, ?_⟩
    · rw [fault, starts, if_neg (List.cons_ne_nil c rest)]
      rfl
    · exact head?_snippetOf (not_isBlank_of_visibleText starts)
    · exact length_snippetOf_le _
    · exact newline_not_mem_snippetOf _
    · refine ((snippetOf_prefix_self _).isInfix.trans ?_).trans (t.ownText_infix source)
      exact starts ▸ visibleText_infix _
  · rw [Tree.diagnose, fault]
    split_ifs with blank
    · exact (by decide : '\n' ∉ "unexpected token".toList)
    · exact newline_not_mem_unexpected (newline_not_mem_snippetOf _)

namespace Sample

/-- Characters that fit nowhere, behind a blank of two bytes, a line end of two bytes and a carriage
return, and with wide blanks among them. -/
def strayText : String := "package p\n\u00a0\r\n\r$é\u3000\u2028b\u0085\r\n"

def stray : Tree := .node ⟨"ERROR", true, none, ⟨10, 1, 0⟩, 29, false, true, false, true⟩ []

theorem visibleText_stray : visibleText (stray.ownText strayText) =
    '$' :: ['é', '\u3000', '\u2028', 'b', '\u0085', '\r', '\n'] := by
  decide +kernel

def strayWord : Tree := .node ⟨"ERROR", true, none, ⟨10, 0, 10⟩, 15, false, true, false, true⟩ []

theorem visibleText_strayWord :
    visibleText (strayWord.ownText "package p token") = ['t', 'o', 'k', 'e', 'n'] := by
  decide +kernel

end Sample

theorem unexpected_text_is_shown_stray : Sample.stray.label.missing = false ∧
    (Sample.stray.fault Sample.strayText).message =
      "unexpected " ++ String.ofList ['$', 'é', '\u3000', '\u2028', 'b'] := by
  refine ⟨rfl, ?_⟩
  obtain ⟨shown, text, message, -⟩ :=
    (unexpected_text_is_shown rfl).2.2.1 '$' _ Sample.visibleText_stray
  rw [message, text]
  rfl

theorem unexpected_token_is_shown : ¬ ∀ (source : String) (t : Tree), t.label.kind = "ERROR" →
    t.label.missing = false → ((t.fault source).message = "unexpected token" ↔
      visibleText (t.ownText source) = []) := by
  intro only
  have fault := @Tree.fault_of_present "package p token" Sample.strayWord rfl
  rw [Sample.visibleText_strayWord] at fault
  have blank := (only "package p token" Sample.strayWord rfl rfl).1 (by rw [fault]; rfl)
  rw [Sample.visibleText_strayWord] at blank
  cases blank

/-- In a text of blanks there is nothing to show. -/
example : snippet "\u00a0\r\n\r\u3000\n" = none := by decide +kernel

end TagIndex
