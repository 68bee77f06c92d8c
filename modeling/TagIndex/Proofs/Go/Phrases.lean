import TagIndex.Proofs.Go.Shape
import TagIndex.Proofs.Go.Words

/-! Phrases of Go at known points of a text: which of them cannot begin there, and where the others
end. -/

namespace TagIndex.Go
open Grammar Grammar.Phrase Text

variable {source : String} {role : Role} {r : Phrase} {ts : List Tree}
  {g u s s' name rest known : List Char}

structure IsDeclName (name : List Char) : Prop where
  identifier : identifier.Matches name
  free : String.ofList name ∉ language.reserved

theorem IsDeclName.flat (named : IsDeclName name) : '\n' ∉ name := by
  intro mem
  have letter : 48 ≤ '\n'.toNat := (identifier_chars named.identifier).2 '\n' mem
  revert letter
  decide

def allBut (live : List String) (rule : String) : Bool := !live.contains rule

theorem not_identifier_at {c : Char} {tail : List Char} (mark : IsMark c) (other : ¬ IsStart c)
    (gap : Gap g) : ¬ Parses language source role (ref "identifier") (g ++ c :: tail) ts s' := by
  intro h
  obtain ⟨t, text, -, -, -, read, -⟩ := (parses_sole identifier_token rfl (.inr rfl)).1 h
  have solid : Solid (c :: tail) := ⟨c, tail, rfl, mark⟩
  have spelled : identifier.Matches text := matches_of_reads read gap solid
  obtain ⟨d, more, rfl, start, -⟩ := identifier_matches_iff.1 spelled
  obtain ⟨e, after, split, blank⟩ | empty | same := reads_cases read gap solid.stops
  · obtain ⟨rfl, -⟩ := List.cons.inj split
    exact absurd blank (isMark_of_identifier spelled).not_blank
  · cases empty
  · obtain ⟨rfl, -⟩ := List.cons.inj same
    exact other start

theorem not_identifier_keyword (word : List Char)
    (reserved : String.ofList word ∈ language.reserved) (gap : Gap g) (ends : Ends rest) :
    ¬ Parses language source role (ref "identifier") (g ++ (word ++ rest)) ts s' := by
  intro h
  obtain ⟨t, text, -, -, -, read, -⟩ := (parses_sole identifier_token rfl (.inr rfl)).1 h
  have matched : identifier.Matches word := by simpa using reserved_matches _ reserved
  exact (reads_identifier read matched gap ends).2.2 reserved

theorem front_mark {c : Char} {tail : List Char} {dead : String → Bool}
    (closed : language.closed (opensAt [c]) dead ["identifier"] = true) (mark : IsMark c)
    (other : ¬ IsStart c) (gap : Gap g) :
    Front language source (g ++ c :: tail) (opensAt [c]) dead := by
  have solid : Solid (c :: tail) := ⟨c, tail, rfl, mark⟩
  refine .closed (fun l text s' read =>
    opensAt_of_reads read ⟨tail, rfl⟩ (List.cons_ne_nil _ _) gap solid) ?_ closed
  intro rule listed role ts s' h
  obtain rfl : rule = "identifier" := by simpa using listed
  exact not_identifier_at mark other gap h

theorem front_keyword (word : List Char) {dead : String → Bool}
    (reserved : String.ofList word ∈ language.reserved)
    (closed : language.closed (opensAt (word ++ [' '])) dead ["identifier"] = true) :
    Front language source (word ++ ' ' :: rest) (opensAt (word ++ [' '])) dead := by
  have matched : identifier.Matches word := by simpa using reserved_matches _ reserved
  have solid : Solid (word ++ ' ' :: rest) := (solid_of_identifier matched).append _
  have ends : Ends (' ' :: rest) := by
    rintro _ _ ⟨⟩
    decide
  refine .closed (fun l text s' read => opensAt_of_reads (g := []) read ⟨rest, by simp⟩ (by simp)
    (by decide) solid) (fun rule listed role ts s' h => ?_) closed
  obtain rfl : rule = "identifier" := by simpa using listed
  exact not_identifier_keyword word (g := []) reserved (by decide) ends h

def otherTypes : List String := ["pointer_type", "struct_type", "interface_type", "array_type",
  "slice_type", "map_type", "channel_type", "function_type", "negated_type", "parenthesized_type",
  "parameter_list", "type_parameter_list", "block"]

theorem closed_name : language.closed opensName otherTypes.contains [] = true := by
  decide

theorem front_name (named : IsDeclName name) (gap : Gap g) (ends : Ends rest) :
    Front language source (g ++ (name ++ rest)) opensName otherTypes.contains :=
  .closed (fun _ _ _ read => opensName_of_reads read named.identifier named.free gap ends) (by simp)
    closed_name

theorem name_ends (kind : String) {rule : String} (mem : (rule, kind) ∈ nameRules)
    (unnamed : role.aliasName = none) (named : IsDeclName name) (gap : Gap g) (ends : Ends rest)
    (h : Parses language source role (ref rule) (g ++ (name ++ rest)) ts s') :
    s' = rest ∧ ∃ n, ts = [n] ∧ n.belongs = true ∧ n.kind = kind ∧ n.named = true ∧
      n.field = role.field ∧ n.Stands source name rest := by
  have word {role : Role}
      (h : Parses language source role (ref "identifier") (g ++ (name ++ rest)) ts s') :
      s' = rest ∧ ∃ n, ts = [n] ∧ n.belongs = true ∧ Shows n "identifier" true role ∧
        n.Stands source name rest := by
    obtain ⟨t, text, rfl, part, shows, read, stands⟩ :=
      (parses_sole identifier_token rfl (.inr rfl)).1 h
    obtain ⟨rfl, rfl, -⟩ := reads_identifier read named.identifier gap ends
    exact ⟨rfl, t, rfl, part, shows, stands⟩
  have aliased (body : language.rule? rule = some (.called kind (ref "identifier")))
      (hidden : isHidden rule = true) : s' = rest ∧ ∃ n, ts = [n] ∧ n.belongs = true ∧
        n.kind = kind ∧ n.named = true ∧ n.field = role.field ∧ n.Stands source name rest := by
    rw [parses_hidden body hidden unnamed, parses_called] at h
    obtain ⟨rfl, n, rfl, part, shows, stands⟩ := word h
    refine ⟨rfl, n, rfl, part, by simp [shows.kind, Role.within, unnamed], by simp [shows.named],
      by simp [shows.field, Role.within], stands⟩
  simp only [nameRules, List.mem_cons, Prod.mk.injEq, List.not_mem_nil, or_false] at mem
  obtain ⟨rfl, rfl⟩ | ⟨rfl, rfl⟩ | ⟨rfl, rfl⟩ | ⟨rfl, rfl⟩ := mem
  · obtain ⟨rfl, n, rfl, part, shows, stands⟩ := word h
    exact ⟨rfl, n, rfl, part, by simp [shows.kind, unnamed], by simp [shows.named], shows.field,
      stands⟩
  · exact aliased rfl rfl
  · exact aliased rfl rfl
  · exact aliased rfl rfl

def Marked (sp : String) : Prop := ∃ c ∈ sp.toList.head?, IsMark c

instance (sp : String) : Decidable (Marked sp) :=
  decidable_of_iff (sp.toList.head?.any fun c => IsMark c) (by simp [Marked, Option.any_eq_true])

theorem lit_ends (g rest : List Char) {sp : String} (marked : Marked sp) (gap : Gap g)
    (h : Parses language source role (lit sp) (g ++ (sp.toList ++ rest)) ts s') : s' = rest ∧
      ∃ t, ts = [t] ∧ t.belongs = true ∧ Shows t sp false role := by
  obtain ⟨t, text, rfl, part, shows, read, -⟩ := parses_lit.1 h
  obtain ⟨c, head, mark⟩ := marked
  obtain ⟨tail, spelling⟩ : ∃ tail, sp.toList = c :: tail := by
    cases spelling : sp.toList <;> simp_all
  have literal : (Lexeme.ofText sp).pattern.literal? = some (c :: tail) := by
    rw [← spelling]
    exact Pattern.literal?_text sp
  rw [spelling] at read
  have solid : Solid (c :: tail ++ rest) := ⟨c, tail ++ rest, rfl, mark⟩
  obtain ⟨-, split⟩ := reads_literal read (matches_of_reads read gap solid) literal mark.not_blank
    gap solid.stops
  exact ⟨(List.append_cancel_left split).symm, t, rfl, part, shows⟩

theorem ends_cons {c : Char} {tail : List Char} (other : ¬ IsContinue c) : Ends (c :: tail) := by
  rintro d more ⟨⟩
  exact other

structure TypeEnds (source : String) (rest : List Char) : Prop where
  ends : Ends rest
  bracket : ∀ role ts s', ¬ Parses language source role (lit "[") rest ts s'
  dot : ∀ role ts s', ¬ Parses language source role (lit ".") rest ts s'

theorem TypeEnds.of_front {opens : Lexeme → Bool} {dead : String → Bool}
    (front : Front language source rest opens dead) (ends : Ends rest)
    (shut : opens (.ofText "[") = false ∧ opens (.ofText ".") = false) :
    TypeEnds source rest where
  ends := ends
  bracket role ts s' h := front.miss h (by
    simp [lit, Rule.starts, Rule.blankable, Leaf.isOpen, shut])
  dot role ts s' h := front.miss h (by
    simp [lit, Rule.starts, Rule.blankable, Leaf.isOpen, shut])

theorem qualified_type_absent (named : IsDeclName name) (gap : Gap g)
    (after : TypeEnds source rest) :
    ¬ Parses language source role (ref "qualified_type") (g ++ (name ++ rest)) ts s' := by
  intro h
  obtain ⟨t, -, -, -, -, body⟩ := (parses_shown rfl rfl rfl).1 h
  simp only [parses_next, parses_field] at body
  obtain ⟨_, m, _, package, ⟨_, _, _, dot, -⟩, -⟩ := body
  obtain ⟨rfl, -⟩ := name_ends "package_identifier" (by decide) rfl named gap after.ends package
  exact after.dot _ _ _ dot

theorem generic_type_absent (named : IsDeclName name) (gap : Gap g) (after : TypeEnds source rest) :
    ¬ Parses language source role (ref "generic_type") (g ++ (name ++ rest)) ts s' := by
  intro h
  obtain ⟨t, -, -, -, -, body⟩ := (parses_shown rfl rfl rfl).1 h
  simp only [parses_weigh, parses_next, parses_field, parses_oneOf, List.mem_cons,
    List.not_mem_nil, or_false] at body
  obtain ⟨_, m, _, ⟨_, rfl | rfl | rfl, type⟩, ⟨_, _, _, arguments, -⟩, -⟩ := body
  · obtain ⟨rfl, -⟩ := name_ends "type_identifier" (by decide) rfl named gap after.ends type
    obtain ⟨_, -, -, -, -, inner⟩ := (parses_shown rfl rfl rfl).1 arguments
    obtain ⟨_, _, _, bracket, -, -⟩ := parses_next.1 (parses_weigh.1 inner)
    exact after.bracket _ _ _ bracket
  · exact qualified_type_absent named gap after type
  · exact (front_name named gap after.ends).misses "negated_type" rfl _ _ _ type

theorem simple_type_ends (unnamed : role.aliasName = none) (named : IsDeclName name) (gap : Gap g)
    (after : TypeEnds source rest)
    (h : Parses language source role (ref "_simple_type") (g ++ (name ++ rest)) ts s') :
    s' = rest := by
  have front : Front language source (g ++ (name ++ rest)) opensName otherTypes.contains :=
    front_name named gap after.ends
  rw [parses_hidden rfl rfl unnamed, parses_oneOf] at h
  simp only [List.mem_cons, List.not_mem_nil, or_false] at h
  obtain ⟨_, rfl | rfl | rfl | rfl | rfl | rfl | rfl | rfl | rfl | rfl | rfl | rfl, h⟩ := h
  · exact (name_ends "type_identifier" (by decide) unnamed named gap after.ends
      (parses_weigh.1 h)).1
  · exact absurd h (generic_type_absent named gap after)
  · exact absurd h (qualified_type_absent named gap after)
  all_goals exact (front.miss h (by decide)).elim

theorem type_ends (unnamed : role.aliasName = none) (named : IsDeclName name) (gap : Gap g)
    (after : TypeEnds source rest)
    (h : Parses language source role (ref "_type") (g ++ (name ++ rest)) ts s') : s' = rest := by
  rw [parses_hidden rfl rfl unnamed, parses_oneOf] at h
  simp only [List.mem_cons, List.not_mem_nil, or_false] at h
  obtain ⟨_, rfl | rfl, h⟩ := h
  · exact simple_type_ends unnamed named gap after h
  · exact ((front_name named gap after.ends).misses _ rfl _ _ _ h).elim

theorem closed_paren : language.closed (opensAt [')']) (allBut ["source_file"]) ["identifier"] =
    true := by
  decide

theorem closed_brace : language.closed (opensAt ['\x7d']) (allBut ["source_file"]) ["identifier"] =
    true := by
  decide

theorem front_paren (gap : Gap g) : Front language source (g ++ ')' :: rest) (opensAt [')'])
    (allBut ["source_file"]) :=
  front_mark closed_paren (by decide) (by decide) gap

theorem front_brace (gap : Gap g) : Front language source (g ++ '\x7d' :: rest) (opensAt ['\x7d'])
    (allBut ["source_file"]) :=
  front_mark closed_brace (by decide) (by decide) gap

theorem no_parameters_end (gap : Gap g)
    (h : Parses language source role (ref "parameter_list") (g ++ '(' :: ')' :: rest) ts s') :
    s' = rest ∧ ∃ t, ts = [t] ∧ t.belongs = true ∧ Shows t "parameter_list" true role := by
  obtain ⟨t, rfl, part, shows, -, body⟩ := (parses_shown rfl rfl rfl).1 h
  simp only [parses_next, parses_done] at body
  obtain ⟨_, m, _, opening, ⟨_, n, _, inner, ⟨_, _, _, closing, ⟨-, rfl⟩, -⟩, -⟩, -⟩ := body
  obtain ⟨rfl, -⟩ := lit_ends g (')' :: rest) (by decide) gap opening
  obtain rfl : n = ')' :: rest := (front_paren (g := []) (by decide)).stay inner (by decide)
  obtain ⟨rfl, -⟩ := lit_ends [] rest (by decide) (by decide) closing
  exact ⟨rfl, t, rfl, part, shows⟩

theorem empty_block_ends (gap : Gap g)
    (h : Parses language source role (ref "block") (g ++ '\x7b' :: '\x7d' :: rest) ts s') :
    s' = rest := by
  obtain ⟨t, rfl, part, shows, -, body⟩ := (parses_shown rfl rfl rfl).1 h
  simp only [parses_next, parses_done] at body
  obtain ⟨_, m, _, opening, ⟨_, n, _, inner, ⟨_, _, _, closing, ⟨-, rfl⟩, -⟩, -⟩, -⟩ := body
  obtain ⟨rfl, -⟩ := lit_ends g ('\x7d' :: rest) (by decide) gap opening
  obtain rfl : n = '\x7d' :: rest :=
    (front_brace (g := []) (by decide)).stay inner (by decide)
  exact (lit_ends [] rest (by decide) (by decide) closing).1

theorem named_r : IsDeclName ['r'] := ⟨by decide, by decide +kernel⟩

theorem named_t : IsDeclName ['T'] := ⟨by decide, by decide +kernel⟩

theorem ends_blank : Ends (' ' :: rest) := ends_cons (by decide)

theorem ends_paren : Ends (')' :: rest) := ends_cons (by decide)

theorem front_r : Front language source ('r' :: ' ' :: 'T' :: ')' :: rest) opensName
    otherTypes.contains :=
  front_name (g := []) named_r (by decide) ends_blank

theorem front_t : Front language source (' ' :: 'T' :: ')' :: rest) opensName
    otherTypes.contains :=
  front_name (g := [' ']) named_t (by decide) ends_paren

theorem typeEnds_t : TypeEnds source (' ' :: 'T' :: ')' :: rest) :=
  .of_front front_t ends_blank (by decide)

theorem typeEnds_paren : TypeEnds source (')' :: rest) :=
  .of_front (front_paren (g := []) (by decide)) ends_paren (by decide)

theorem parameter_ends
    (h : Parses language source role (ref "parameter_declaration")
      ('r' :: ' ' :: 'T' :: ')' :: rest) ts s') :
    s' = ' ' :: 'T' :: ')' :: rest ∨ s' = ')' :: rest := by
  obtain ⟨t, -, -, -, -, body⟩ := (parses_shown rfl rfl rfl).1 h
  simp only [parses_next, parses_done, commaSep, commaSep1, sepBy1, parses_opt, parses_field]
    at body
  obtain ⟨_, m, _, names, ⟨_, _, _, type, ⟨-, rfl⟩, -⟩, -⟩ := body
  obtain ⟨_, n, _, name, ⟨_, k, _, others, ⟨-, rfl⟩, -⟩, -⟩ | ⟨-, rfl⟩ := names
  · obtain ⟨rfl, -⟩ := name_ends "identifier" (g := []) (by decide) rfl named_r (by decide)
      ends_blank name
    obtain rfl : m = _ := front_t.stay others (by decide)
    exact .inr (type_ends (g := [' ']) rfl named_t (by decide) typeEnds_paren type)
  · exact .inl (type_ends (g := []) rfl named_r (by decide) typeEnds_t type)

theorem not_variadic : ¬ Parses language source role (ref "variadic_parameter_declaration")
    ('r' :: ' ' :: 'T' :: ')' :: rest) ts s' := by
  intro h
  obtain ⟨t, -, -, -, -, body⟩ := (parses_shown rfl rfl rfl).1 h
  simp only [parses_next, parses_opt, parses_field] at body
  obtain ⟨_, m, _, name | ⟨-, rfl⟩, ⟨_, _, _, dots, -⟩, -⟩ := body
  · obtain ⟨rfl, -⟩ := name_ends "identifier" (g := []) (by decide) rfl named_r (by decide)
      ends_blank name
    exact front_t.miss dots (by decide)
  · exact front_r.miss dots (by decide)

theorem receiver_ends (gap : Gap g)
    (h : Parses language source role (ref "parameter_list")
      (g ++ '(' :: 'r' :: ' ' :: 'T' :: ')' :: rest) ts s') :
    s' = rest ∧ ∃ t, ts = [t] ∧ t.belongs = true ∧ Shows t "parameter_list" true role := by
  obtain ⟨t, rfl, part, shows, -, body⟩ := (parses_shown rfl rfl rfl).1 h
  simp only [parses_next, parses_done, parses_opt] at body
  obtain ⟨_, m, _, opening, ⟨_, n, _, inner, ⟨_, _, _, closing, ⟨-, rfl⟩, -⟩, -⟩, -⟩ := body
  obtain ⟨rfl, -⟩ := lit_ends g ('r' :: ' ' :: 'T' :: ')' :: rest) (by decide) gap opening
  obtain ⟨_, k, _, parameters, ⟨_, _, _, comma, ⟨-, rfl⟩, -⟩, -⟩ | ⟨-, rfl⟩ := inner
  · simp only [commaSep, commaSep1, sepBy1, parses_opt, parses_next, parses_done, parses_oneOf,
      List.mem_cons, List.not_mem_nil, or_false] at parameters
    obtain ⟨_, k', _, ⟨_, rfl | rfl, first⟩, ⟨_, _, _, others, ⟨-, rfl⟩, -⟩, -⟩ | ⟨-, rfl⟩ :=
      parameters
    · obtain rfl | rfl := parameter_ends first
      · obtain rfl := front_t.stay others (by decide)
        obtain comma | ⟨-, rfl⟩ := comma
        · exact (front_t.miss comma (by decide)).elim
        · exact (front_t.miss closing (by decide)).elim
      · have front : Front language source (')' :: rest) (opensAt [')']) (allBut ["source_file"]) :=
          front_paren (g := []) (by decide)
        obtain rfl := front.stay others (by decide)
        obtain comma | ⟨-, rfl⟩ := comma
        · exact (front.miss comma (by decide)).elim
        · obtain ⟨rfl, -⟩ := lit_ends [] rest (by decide) (by decide) closing
          exact ⟨rfl, t, rfl, part, shows⟩
    · exact (not_variadic first).elim
    · obtain comma | ⟨-, rfl⟩ := comma
      · exact (front_r.miss comma (by decide)).elim
      · exact (front_r.miss closing (by decide)).elim
  · exact (front_r.miss closing (by decide)).elim

theorem terminator_ends (gap : Gap g) (flat : '\n' ∉ g) (stops : Stops u)
    (other : ∀ rest, u ≠ ';' :: rest) (whole : u = [] → g = []) (unnamed : role.aliasName = none)
    (h : Parses language source role terminator ('\n' :: (g ++ u)) ts s') :
    s' = g ++ u ∧ ∀ t ∈ ts, t.named = false := by
  have blanks : Gap ('\n' :: g) := List.forall_mem_cons.2 ⟨by decide, gap⟩
  rw [terminator, parses_oneOf] at h
  simp only [List.mem_cons, List.not_mem_nil, or_false] at h
  obtain ⟨_, rfl | rfl | rfl, h⟩ := h
  · cases h with
    | token _ shown => simp [unnamed, Lexeme.ofPattern] at shown
    | hiddenToken _ _ read => exact ⟨newline_ends read gap flat stops, by simp⟩
  · obtain ⟨t, text, -, -, -, read, -⟩ := parses_lit.1 h
    obtain spelled | ⟨-, -, null⟩ := read.spelled
    · obtain ⟨-, split⟩ := reads_literal (g := '\n' :: g) read spelled
        (Pattern.literal?_text ";") (by decide) blanks stops
      exact absurd split (other s')
    · have mismatch : ['\x00'] = [';'] := null.literal (Pattern.literal?_text ";")
      cases mismatch
  · obtain ⟨t, text, rfl, -, shows, read, -⟩ := parses_lit.1 h
    obtain spelled | ⟨rfl, rfl, -⟩ := read.spelled
    · obtain ⟨-, split⟩ := reads_literal (g := '\n' :: g) read spelled
        (Pattern.literal?_text "\x00") (by decide) blanks stops
      exact absurd (stops '\x00' s' split) (by decide)
    · obtain ⟨g', -, same⟩ := skips_stops (g := '\n' :: g) read.skipped rfl blanks stops
      have none : u = [] := (List.append_eq_nil_iff.1 same.symm).2
      simp [whole none, none, shows.named, unnamed]

theorem not_terminator (gap : Gap g) (flat : '\n' ∉ g) (solid : Solid u)
    (other : ∀ rest, u ≠ ';' :: rest) (unnamed : role.aliasName = none) :
    ¬ Parses language source role terminator (g ++ u) ts s' := by
  intro h
  rw [terminator, parses_oneOf] at h
  simp only [List.mem_cons, List.not_mem_nil, or_false] at h
  obtain ⟨_, rfl | rfl | rfl, h⟩ := h
  · cases h with
    | token _ shown => simp [unnamed, Lexeme.ofPattern] at shown
    | hiddenToken _ _ read => exact not_reads_newline gap flat solid.stops read
  · obtain ⟨t, text, -, -, -, read, -⟩ := parses_lit.1 h
    obtain ⟨-, split⟩ := reads_literal read (matches_of_reads read gap solid)
      (Pattern.literal?_text ";") (by decide) gap solid.stops
    exact other s' split
  · obtain ⟨t, text, -, -, -, read, -⟩ := parses_lit.1 h
    obtain ⟨-, split⟩ := reads_literal read (matches_of_reads read gap solid)
      (Pattern.literal?_text "\x00") (by decide) gap solid.stops
    exact absurd (solid.stops '\x00' s' split) (by decide)

end TagIndex.Go
