import TagIndex.Proofs.Printing.Lines

/-! An import on a line of its own. -/

namespace TagIndex.Go
open Grammar Grammar.Phrase Text TagIndex.Tree

variable {source : String} {role : Role} {ts : List Tree} {s' before text rest : List Char}

def pathText (rest : List Char) : List Char := 'f' :: 'm' :: 't' :: '"' :: rest

def importText (rest : List Char) : List Char :=
  'i' :: 'm' :: 'p' :: 'o' :: 'r' :: 't' :: ' ' :: '"' :: pathText ('\n' :: rest)

theorem content_set : (CharSet.ofText "\"\n\\").complement =
    ⟨[(0, 9), (11, 33), (35, 91), (93, CharSet.maxCode)]⟩ := by
  have sorted : CharSet.ofText "\"\n\\" = ⟨[(10, 10), (34, 34), (92, 92)]⟩ := by
    simp [CharSet.ofText, CharSet.ofRanges, CharSet.joinRanges, List.mergeSort]
  rw [sorted]
  rfl

theorem not_quote_of_content (h : interpretedStringContent.pattern.Matches text) : '"' ∉ text := by
  intro mem
  obtain ⟨set, listed, holds⟩ := h.mem_sets _ mem
  have same : set = (CharSet.ofText "\"\n\\").complement := by
    simpa [interpretedStringContent, Pattern.many1, Pattern.noneOf, Pattern.sets] using listed
  rw [same, content_set] at holds
  revert holds
  decide

theorem content_matches : interpretedStringContent.pattern.Matches ['f', 'm', 't'] := by
  have letter (c : Char)
      (inside : (⟨[(0, 9), (11, 33), (35, 91), (93, CharSet.maxCode)]⟩ : CharSet).contains c.toNat =
        true) : (Pattern.noneOf "\"\n\\").Matches [c] :=
    .one (by rwa [content_set])
  have f := letter 'f' (by decide)
  have m := letter 'm' (by decide)
  have t := letter 't' (by decide)
  exact .andThen f (.more m (.more t .none))

theorem content_reads
    (h : language.Reads interpretedStringContent (pathText rest) text s') : s' = '"' :: rest := by
  have split : pathText rest = text ++ s' := h.adjacent rfl
  have solid : Solid (pathText rest) := ⟨'f', _, rfl, by decide⟩
  have spelled : interpretedStringContent.pattern.Matches text :=
    matches_of_reads (g := []) h (by decide) solid
  have long : 3 ≤ text.length :=
    h.longest ['f', 'm', 't'] ⟨'"' :: rest, split⟩ content_matches
  have noQuote : '"' ∉ text := not_quote_of_content spelled
  match text, split, long, noQuote with
  | _ :: _ :: _ :: more, split, _, noQuote =>
    simp only [pathText, List.cons_append, List.cons.injEq] at split
    obtain ⟨rfl, rfl, rfl, tail⟩ := split
    cases more with
    | nil => exact tail.symm
    | cons d more =>
      obtain ⟨rfl, -⟩ := List.cons.inj tail
      simp at noQuote

theorem closed_path : language.closed (opensAt ['f']) ["escape_sequence"].contains [] = true := by
  decide

theorem front_path : Front language source (pathText rest) (opensAt ['f'])
    ["escape_sequence"].contains := by
  have solid : Solid (pathText rest) := ⟨'f', _, rfl, by decide⟩
  exact .closed (fun l text s' read =>
    opensAt_of_reads (g := []) read ⟨_, rfl⟩ (List.cons_ne_nil _ _) (by decide) solid) (by simp)
    closed_path

theorem closed_quote : language.closed (opensAt ['"'])
    ["identifier", "_package_identifier", "dot", "blank_identifier", "raw_string_literal",
      "import_spec_list", "escape_sequence"].contains ["identifier"] = true := by
  decide

theorem front_quote {g : List Char} (gap : Gap g) : Front language source (g ++ '"' :: rest)
    (opensAt ['"']) ["identifier", "_package_identifier", "dot", "blank_identifier",
      "raw_string_literal", "import_spec_list", "escape_sequence"].contains :=
  front_mark closed_quote (by decide) (by decide) gap

theorem read_of_token {l : Lexeme} {s : List Char}
    (h : Parses language source role (.leaf (.token l)) s ts s') :
    ∃ text, language.Reads l s text s' := by
  cases h with
  | token _ _ _ read => exact ⟨_, read⟩
  | hiddenToken _ _ read => exact ⟨_, read⟩

theorem content_absent : ¬ Parses language source role
    (.leaf (.token interpretedStringContent)) ('"' :: rest) ts s' := by
  intro h
  obtain ⟨text, read⟩ := read_of_token h
  have solid : Solid ('"' :: rest) := ⟨'"', rest, rfl, by decide⟩
  have spelled : interpretedStringContent.pattern.Matches text :=
    matches_of_reads (g := []) read (by decide) solid
  have split : '"' :: rest = text ++ s' := read.adjacent rfl
  cases text with
  | nil => cases spelled.nullable rfl
  | cons c text =>
    obtain ⟨rfl, -⟩ := List.cons.inj split
    exact not_quote_of_content spelled List.mem_cons_self

theorem string_reads
    (h : Parses language source role (ref "interpreted_string_literal")
      (' ' :: '"' :: pathText rest) ts s') : s' = rest := by
  obtain ⟨_, -, -, -, -, body⟩ := (parses_shown rfl rfl rfl).1 h
  obtain ⟨_, m, _, opening, afterOpening, -⟩ := parses_next.1 body
  obtain ⟨_, k, _, contents, afterContents, -⟩ := parses_next.1 afterOpening
  obtain ⟨_, _, _, closing, done, -⟩ := parses_next.1 afterContents
  obtain ⟨-, rfl⟩ := parses_done.1 done
  obtain ⟨rfl, -⟩ := lit_ends [' '] (pathText rest) (by decide) (by decide) opening
  have quote : Front language source ('"' :: rest) _ _ := front_quote (g := []) (by decide)
  obtain ⟨-, rfl⟩ | ⟨_, j, _, content, contents, -⟩ := parses_many.1 contents
  · exact (front_path.miss closing (by decide)).elim
  simp only [interpretedPart, parses_oneOf, List.mem_cons, List.not_mem_nil, or_false] at content
  -- The content is one token up to the quote, so a second part would have to begin at the quote.
  obtain ⟨_, rfl | rfl, content⟩ := content
  · obtain ⟨text, read⟩ := read_of_token (parses_called.1 content)
    obtain rfl := content_reads read
    obtain ⟨-, rfl⟩ | ⟨_, i, _, more, -, -⟩ := parses_many.1 contents
    · obtain ⟨text, read⟩ := read_of_token closing
      have spelled : closingQuote.pattern.Matches text :=
        matches_of_reads (g := []) read (by decide) ⟨'"', rest, rfl, by decide⟩
      obtain rfl : text = ['"'] := Pattern.matches_text_iff.1 spelled
      exact (List.cons.inj (read.adjacent rfl)).2.symm
    · simp only [interpretedPart, parses_oneOf, List.mem_cons, List.not_mem_nil, or_false] at more
      obtain ⟨_, rfl | rfl, more⟩ := more
      · exact (content_absent (parses_called.1 more)).elim
      · exact (quote.misses "escape_sequence" rfl _ _ _ more).elim
  · exact (front_path.misses "escape_sequence" rfl _ _ _ content).elim

theorem closed_import : language.closed (opensAt "import ".toList)
    (allBut ["import_declaration", "_top_level_declaration", "source_file"]) ["identifier"] =
    true := by
  decide

theorem front_import : Front language source (importText rest) (opensAt "import ".toList)
    (allBut ["import_declaration", "_top_level_declaration", "source_file"]) :=
  front_keyword "import".toList (by decide) closed_import

theorem import_declaration_reads
    (h : Parses language source {} (ref "import_declaration") (importText rest) ts s') :
    (∃ t, ts = [t] ∧ Declares source "import_declaration" [] t) ∧ s' = '\n' :: rest := by
  obtain ⟨t, rfl, -, shows, between, body⟩ := (parses_shown rfl rfl rfl).1 h
  have isKind : t.kind = "import_declaration" := shows.kind
  refine ⟨⟨t, rfl, shows.named, isKind, ⟨between, _, rfl, rfl, body.derives⟩, fun _ => ?_⟩, ?_⟩
  · have own : t.ownNames = [] := by simp [ownNames, isKind]
    rw [own]
    rfl
  obtain ⟨_, m, _, keyword, afterKeyword, -⟩ := parses_next.1 body
  obtain ⟨_, k, _, imported, done, -⟩ := parses_next.1 afterKeyword
  obtain ⟨-, rfl⟩ := parses_done.1 done
  obtain ⟨rfl, -⟩ := lit_ends [] (' ' :: '"' :: pathText ('\n' :: rest)) (by decide) (by decide)
    keyword
  have quote : Front language source (' ' :: '"' :: pathText ('\n' :: rest)) _ _ :=
    front_quote (g := [' ']) (by decide)
  have spec := quote.only 0 imported rfl (by decide)
  obtain ⟨_, -, -, -, -, body⟩ := (parses_shown rfl rfl rfl).1 spec
  obtain ⟨_, j, _, called, afterName, -⟩ := parses_next.1 body
  obtain ⟨_, i, _, path, done, -⟩ := parses_next.1 afterName
  obtain ⟨-, rfl⟩ := parses_done.1 done
  obtain rfl := quote.stay called (by decide)
  have string := quote.only 1 ((parses_hidden rfl rfl rfl).1 (parses_field.1 path)) rfl
    (by decide)
  exact string_reads string

theorem import_line : Line source "import_declaration" [] (importText rest) rest := by
  refine .of_top ⟨'i', _, rfl, by decide⟩ nofun front_import rfl fun ts s' h => ?_
  have declaration : Parses language source {} (ref "import_declaration") (importText rest) ts s' :=
    front_import.only 3 ((parses_hidden rfl rfl rfl).1 h) rfl (by decide)
  obtain ⟨declares, stop⟩ := import_declaration_reads declaration
  exact ⟨declares, .inl stop⟩

end TagIndex.Go
