import TagIndex.Go.Language
import TagIndex.Proofs.Go.Identifier
import TagIndex.Proofs.Grammar.Starting

/-! The tokens of Go that can be read at some point of a text: after blanks there comes a keyword,
a name or a mark. -/

namespace TagIndex.Go
open Grammar Text

def IsBlank (c : Char) : Prop := CharSet.Holds [(9, 13), (32, 32)] c.toNat

instance (c : Char) : Decidable (IsBlank c) := inferInstanceAs (Decidable (CharSet.Holds _ _))

theorem isBlank_iff {c : Char} : IsBlank c ↔ 9 ≤ c.toNat ∧ c.toNat ≤ 13 ∨ c.toNat = 32 := by
  simp only [IsBlank, CharSet.Holds, List.mem_cons, List.not_mem_nil, or_false, exists_eq_or_imp,
    exists_eq_left]
  omega

theorem blanks_contains {c : Char} : language.blanks.contains c.toNat = true ↔ IsBlank c :=
  CharSet.contains_ofRanges

def IsStart (c : Char) : Prop := CharSet.Holds ((95, 95) :: xidStartRanges) c.toNat

def IsContinue (c : Char) : Prop := CharSet.Holds ((95, 95) :: xidContinueRanges) c.toNat

theorem holds_ascii {ranges : List (Nat × Nat)} {n : Nat} (k : Nat)
    (beyond : ∀ r ∈ ranges.drop k, 128 ≤ r.1) (ascii : n < 128) :
    CharSet.Holds ((95, 95) :: ranges.take k) n ↔ CharSet.Holds ((95, 95) :: ranges) n := by
  constructor
  · rintro ⟨r, mem, bounds⟩
    exact ⟨r, List.cons_subset_cons _ (List.take_subset k ranges) mem, bounds⟩
  · rintro ⟨r, mem, least, most⟩
    refine ⟨r, ?_, least, most⟩
    rw [← List.take_append_drop k ranges, ← List.cons_append, List.mem_append] at mem
    obtain early | late := mem
    · exact early
    · have far := beyond r late
      omega

theorem start_beyond : ∀ r ∈ xidStartRanges.drop 2, 128 ≤ r.1 := by
  decide +kernel

theorem continue_beyond : ∀ r ∈ xidContinueRanges.drop 4, 128 ≤ r.1 := by
  decide +kernel

-- Only for characters beyond ASCII all ranges are searched.
instance (c : Char) : Decidable (IsStart c) :=
  if ascii : c.toNat < 128 then decidable_of_iff _ (holds_ascii 2 start_beyond ascii)
  else inferInstanceAs (Decidable (CharSet.Holds _ _))

instance (c : Char) : Decidable (IsContinue c) :=
  if ascii : c.toNat < 128 then decidable_of_iff _ (holds_ascii 4 continue_beyond ascii)
  else inferInstanceAs (Decidable (CharSet.Holds _ _))

theorem identifier_matches_iff {text : List Char} : identifier.Matches text ↔
    ∃ c rest, text = c :: rest ∧ IsStart c ∧ ∀ d ∈ rest, IsContinue d := by
  constructor
  · intro h
    cases h with
    | andThen first rest =>
      cases first with
      | one letter =>
        refine ⟨_, _, rfl, CharSet.contains_ofRanges.1 letter, fun d mem => ?_⟩
        obtain ⟨set, listed, holds⟩ := rest.mem_sets d mem
        obtain rfl := List.mem_singleton.1 listed
        exact CharSet.contains_ofRanges.1 holds
  · rintro ⟨c, rest, rfl, first, further⟩
    exact identifier_matches first further

instance (text : List Char) : Decidable (identifier.Matches text) :=
  match text with
  | [] => isFalse fun h => nomatch h.nullable rfl
  | c :: rest => decidable_of_iff (IsStart c ∧ rest.all fun d => IsContinue d) (by
      simp [identifier_matches_iff])

def IsMark (c : Char) : Prop := 32 < c.toNat ∧ c ≠ '/'

instance (c : Char) : Decidable (IsMark c) := inferInstanceAs (Decidable (_ ∧ _))

theorem isMark_of_identifier {c : Char} {rest : List Char} (h : identifier.Matches (c :: rest)) :
    IsMark c := by
  have letter : 48 ≤ c.toNat := (identifier_chars h).2 c List.mem_cons_self
  refine ⟨by omega, ?_⟩
  rintro rfl
  revert letter
  decide

def Gap (g : List Char) : Prop := ∀ c ∈ g, IsBlank c

instance (g : List Char) : Decidable (Gap g) :=
  decidable_of_iff (g.all fun c => IsBlank c) (by simp [Gap])

/-- The text ends, or goes on with no blank and no comment. -/
def Stops (u : List Char) : Prop := ∀ c rest, u = c :: rest → IsMark c

def Solid (u : List Char) : Prop := ∃ c rest, u = c :: rest ∧ IsMark c

theorem stops_nil : Stops [] := nofun

theorem Solid.stops {u : List Char} (h : Solid u) : Stops u := by
  obtain ⟨c, rest, rfl, mark⟩ := h
  rintro d more ⟨⟩
  exact mark

theorem Solid.append {u : List Char} (h : Solid u) (rest : List Char) : Solid (u ++ rest) := by
  obtain ⟨c, tail, rfl, mark⟩ := h
  exact ⟨c, tail ++ rest, rfl, mark⟩

theorem Solid.ne_nil {u : List Char} (h : Solid u) : u ≠ [] := by
  obtain ⟨c, rest, rfl, -⟩ := h
  exact List.cons_ne_nil _ _

theorem solid_of_identifier {name : List Char} (h : identifier.Matches name) : Solid name := by
  obtain ⟨c, rest, rfl, -, -⟩ := identifier_matches_iff.1 h
  exact ⟨c, rest, rfl, isMark_of_identifier h⟩

theorem IsMark.not_blank {c : Char} (h : IsMark c) : ¬ IsBlank c := by
  have past : 32 < c.toNat := h.1
  rw [isBlank_iff]
  omega

theorem skips_gap {g u : List Char} (gap : Gap g) : language.Skips (g ++ u) u := by
  induction g with
  | nil => exact .done
  | cons c g ih =>
    obtain ⟨blank, rest⟩ := List.forall_mem_cons.1 gap
    exact .blank (blanks_contains.2 blank) (ih rest)

theorem comment_first {text : List Char} (h : comment.Matches text) :
    ∃ rest, text = '/' :: rest := by
  cases text with
  | nil => cases h.nullable rfl
  | cons c rest =>
    obtain ⟨set, listed, holds⟩ := h.first rfl
    have slash : ∀ set ∈ comment.firsts, set = CharSet.single '/' := by
      simp [comment, Pattern.firsts, Pattern.text, Pattern.seq, Pattern.nullable]
    rw [slash set listed] at holds
    have same : c.toNat = '/'.toNat := by
      simp only [CharSet.contains, CharSet.single, List.any_cons, List.any_nil, Bool.or_false,
        Bool.and_eq_true, decide_eq_true_eq] at holds
      omega
    exact ⟨rest, by rw [Char.toNat_inj.1 same]⟩

theorem skips_stops {s g u v : List Char} (h : language.Skips s v) (split : s = g ++ u)
    (gap : Gap g) (stops : Stops u) : ∃ g', g' <:+ g ∧ v = g' ++ u := by
  induction h generalizing g with
  | done => exact ⟨g, List.suffix_refl g, split⟩
  | @blank c s s' isBlank rest ih =>
    cases g with
    | nil => exact absurd (blanks_contains.1 isBlank) (stops c s split.symm).not_blank
    | cons d g =>
      obtain ⟨rfl, rfl⟩ := List.cons.inj split
      obtain ⟨g', suffix, same⟩ := ih rfl (List.forall_mem_cons.1 gap).2
      exact ⟨g', suffix.trans (List.suffix_cons c g), same⟩
  | @extra name l text s s' listed token spelled rest ih =>
    obtain rfl : name = "comment" := by simpa [language] using listed
    obtain rfl : Lexeme.ofPattern comment = l := Option.some.inj token
    obtain ⟨tail, rfl⟩ := comment_first spelled
    cases g with
    | nil => exact absurd rfl (stops '/' (tail ++ s) split.symm).2
    | cons d g =>
      obtain ⟨rfl, -⟩ := List.cons.inj split
      have blank : IsBlank '/' := gap '/' List.mem_cons_self
      exact absurd blank (by decide)

theorem not_skips_solid {g u : List Char} (gap : Gap g) (solid : Solid u) :
    ¬ language.Skips (g ++ u) [] := by
  intro h
  obtain ⟨g', -, same⟩ := skips_stops h rfl gap solid.stops
  exact solid.ne_nil (List.append_eq_nil_iff.1 same.symm).2

variable {l : Lexeme} {g u s text s' name rest : List Char}

theorem matches_of_reads (h : language.Reads l (g ++ u) text s') (gap : Gap g) (solid : Solid u) :
    l.pattern.Matches text := by
  obtain spelled | ⟨rfl, rfl, -⟩ := h.spelled
  · exact spelled
  · exact absurd h.skipped (not_skips_solid gap solid)

theorem reads_cases (h : language.Reads l (g ++ u) text s') (gap : Gap g) (stops : Stops u) :
    (∃ c tail, text = c :: tail ∧ IsBlank c) ∨ text = [] ∨ text ++ s' = u := by
  obtain ⟨g', suffix, same⟩ := skips_stops h.skipped rfl gap stops
  cases text with
  | nil => exact .inr (.inl rfl)
  | cons c tail =>
    cases g' with
    | nil => exact .inr (.inr same)
    | cons d g' =>
      obtain ⟨rfl, -⟩ := List.cons.inj same
      exact .inl ⟨c, tail, rfl, gap c (suffix.subset List.mem_cons_self)⟩

theorem reads_literal {c : Char} {tail : List Char} (h : language.Reads l (g ++ u) text s')
    (spelled : l.pattern.Matches text) (literal : l.pattern.literal? = some (c :: tail))
    (visible : ¬ IsBlank c) (gap : Gap g) (stops : Stops u) :
    text = c :: tail ∧ u = c :: tail ++ s' := by
  obtain rfl : text = c :: tail := spelled.literal literal
  refine ⟨rfl, ?_⟩
  obtain ⟨d, more, split, blank⟩ | empty | same := reads_cases h gap stops
  · obtain ⟨rfl, -⟩ := List.cons.inj split
    exact absurd blank visible
  · cases empty
  · exact same.symm

def Ends (rest : List Char) : Prop := ∀ c tail, rest = c :: tail → ¬ IsContinue c

theorem length_le_of_identifier {longer : List Char} (h : identifier.Matches longer)
    (among : longer <+: name ++ rest) (some : name ≠ []) (ends : Ends rest) :
    longer.length ≤ name.length := by
  by_contra past
  -- The character after the name would belong to the longer one, and not as its first.
  obtain ⟨c, tail, rfl, -, further⟩ := identifier_matches_iff.1 h
  obtain ⟨d, name', rfl⟩ := List.exists_cons_of_ne_nil some
  obtain ⟨after, split⟩ := among
  obtain ⟨-, split⟩ := List.cons.inj split
  obtain ⟨more, rfl, beyond⟩ | ⟨more, rfl, beyond⟩ := List.append_eq_append_iff.1 split
  · have short : tail.length ≤ (tail ++ more).length := by simp
    simp only [List.length_cons] at past
    omega
  · cases more with
    | nil => simp at past
    | cons e more =>
      refine ends e _ beyond (further e ?_)
      simp

theorem reads_identifier (h : language.Reads (.ofPattern identifier) (g ++ (name ++ rest)) text s')
    (matched : identifier.Matches name) (gap : Gap g) (ends : Ends rest) :
    text = name ∧ s' = rest ∧ String.ofList name ∉ language.reserved := by
  have solid : Solid (name ++ rest) := (solid_of_identifier matched).append rest
  have spelled : identifier.Matches text := matches_of_reads h gap solid
  have same : text ++ s' = name ++ rest := by
    obtain ⟨c, tail, rfl, blank⟩ | rfl | same := reads_cases h gap solid.stops
    · exact absurd blank (isMark_of_identifier spelled).not_blank
    · cases spelled.nullable rfl
    · exact same
  have short : text.length ≤ name.length :=
    length_le_of_identifier spelled ⟨s', same⟩ (identifier_chars matched).1 ends
  have long : name.length ≤ text.length := h.longest name ⟨rest, same.symm⟩ matched
  obtain ⟨rfl, rfl⟩ := List.append_inj same (Nat.le_antisymm short long)
  exact ⟨rfl, rfl, h.unreserved rfl⟩

theorem reserved_matches : ∀ word ∈ language.reserved, identifier.Matches word.toList := by
  decide +kernel

theorem isWord_of_identifier (h : identifier.Matches text) : language.IsWord text :=
  ⟨.ofPattern identifier, rfl, h⟩

theorem identifier_of_isWord (h : language.IsWord text) : identifier.Matches text := by
  obtain ⟨l, word, spelled⟩ := h
  obtain rfl : Lexeme.ofPattern identifier = l := Option.some.inj word
  exact spelled

theorem not_reads_reserved (reserved : String.ofList text ∈ language.reserved)
    (matched : identifier.Matches name) (free : String.ofList name ∉ language.reserved)
    (split : text ++ s' = name ++ rest) (ends : Ends rest) : ¬ language.Reads l s text s' := by
  intro h
  have keyword : identifier.Matches text := by
    simpa using reserved_matches _ reserved
  have short : text.length ≤ name.length :=
    length_le_of_identifier keyword ⟨s', split⟩ (identifier_chars matched).1 ends
  have long : name.length ≤ text.length :=
    h.uncut (isWord_of_identifier keyword) name ⟨rest, split.symm⟩ (isWord_of_identifier matched)
  obtain ⟨rfl, -⟩ := List.append_inj split (Nat.le_antisymm short long)
  exact free reserved

theorem newline_literal : (Lexeme.ofPattern newline).pattern.literal? = some ['\n'] := rfl

theorem reads_newline (h : language.Reads (.ofPattern newline) s text s') : text = ['\n'] := by
  obtain spelled | ⟨-, -, null⟩ := h.spelled
  · exact spelled.literal newline_literal
  · cases null.literal newline_literal

theorem newline_ends (h : language.Reads (.ofPattern newline) ('\n' :: (g ++ u)) text s')
    (gap : Gap g) (flat : '\n' ∉ g) (stops : Stops u) : s' = g ++ u := by
  obtain rfl := reads_newline h
  have gap' : Gap ('\n' :: g) := List.forall_mem_cons.2 ⟨by decide, gap⟩
  obtain ⟨g', suffix, same⟩ := skips_stops h.skipped rfl gap' stops
  cases g' with
  | nil => exact absurd (stops '\n' s' same.symm) (by decide)
  | cons c g' =>
    obtain ⟨rfl, rest⟩ := List.cons.inj same
    obtain whole | later := List.suffix_cons_iff.1 suffix
    · rw [(List.cons.inj whole).2] at rest
      exact rest
    · exact absurd (later.subset List.mem_cons_self) flat

theorem not_reads_newline (gap : Gap g) (flat : '\n' ∉ g) (stops : Stops u) :
    ¬ language.Reads (.ofPattern newline) (g ++ u) text s' := by
  intro h
  obtain rfl := reads_newline h
  obtain ⟨g', suffix, same⟩ := skips_stops h.skipped rfl gap stops
  cases g' with
  | nil => exact absurd (stops '\n' s' same.symm) (by decide)
  | cons c g' =>
    obtain ⟨rfl, -⟩ := List.cons.inj same
    exact flat (suffix.subset List.mem_cons_self)

theorem word_token : language.tokenOf? language.word = some (.ofPattern identifier) := rfl

theorem reads_of_literal (literal : l.pattern.literal? = some text)
    (spelled : l.pattern.Matches text) (gap : Gap g) (beside : l.adjacent = true → g = [])
    (whole : identifier.Matches text → Ends rest) :
    language.Reads l (g ++ (text ++ rest)) text rest where
  skipped := skips_gap gap
  adjacent adjacent := by rw [beside adjacent, List.nil_append]
  spelled := .inl spelled
  longest longer _ h := Nat.le_of_eq (congrArg List.length (h.literal literal))
  uncut word longer among longerWord := by
    have matched : identifier.Matches text := identifier_of_isWord word
    exact length_le_of_identifier (identifier_of_isWord longerWord) among
      (identifier_chars matched).1 (whole matched)
  unreserved isWord := by
    obtain rfl := Option.some.inj (word_token.symm.trans isWord)
    simp [Lexeme.ofPattern, identifier, Pattern.literal?] at literal

theorem reads_of_identifier (matched : identifier.Matches name)
    (free : String.ofList name ∉ language.reserved) (gap : Gap g) (ends : Ends rest) :
    language.Reads (.ofPattern identifier) (g ++ (name ++ rest)) name rest where
  skipped := skips_gap gap
  adjacent := nofun
  spelled := .inl matched
  longest _ among longer := length_le_of_identifier longer among (identifier_chars matched).1 ends
  uncut _ _ among longer :=
    length_le_of_identifier (identifier_of_isWord longer) among (identifier_chars matched).1 ends
  unreserved _ := free

theorem reads_of_newline : language.Reads (.ofPattern newline) ('\n' :: rest) ['\n'] rest := by
  have spelled : newline.Matches ['\n'] := .one (by decide)
  exact reads_of_literal (g := []) newline_literal spelled (by decide) nofun fun matched =>
    absurd ((identifier_chars matched).2 '\n' List.mem_cons_self) (by decide)

/-- A token that can be read where the text goes on in a known way, after blanks. -/
def opensAt (known : List Char) (l : Lexeme) : Bool :=
  match l.pattern.literal? with
  | some [] => true
  | some (c :: tail) =>
    c.toNat ≤ 32 || (c :: tail).isPrefixOf known || known.isPrefixOf (c :: tail)
  | none => l.pattern.nullable || l.pattern.firsts.any fun set =>
      (known.take 1 |>.map Char.toNat).any set.contains ||
        [9, 10, 11, 12, 13, 32].any set.contains

theorem opensAt_of_reads {known : List Char} (h : language.Reads l (g ++ u) text s')
    (begins : known <+: u) (some : known ≠ []) (gap : Gap g) (solid : Solid u) :
    opensAt known l = true := by
  have spelled : l.pattern.Matches text := matches_of_reads h gap solid
  unfold opensAt
  split
  · rfl
  · rename_i c tail literal
    by_cases past : 32 < c.toNat
    · have visible : ¬ IsBlank c := by
        rw [isBlank_iff]
        omega
      obtain ⟨rfl, split⟩ := reads_literal h spelled literal visible gap solid.stops
      have beside : c :: tail <+: known ∨ known <+: c :: tail :=
        List.prefix_or_prefix_of_prefix ⟨s', split.symm⟩ begins
      obtain inner | outer := beside
      · simp [List.isPrefixOf_iff_prefix.2 inner]
      · simp [List.isPrefixOf_iff_prefix.2 outer]
    · simp [Nat.not_lt.1 past]
  · rw [Bool.or_eq_true, List.any_eq_true]
    cases text with
    | nil => exact .inl (spelled.nullable rfl)
    | cons c tail =>
      obtain ⟨set, listed, holds⟩ := spelled.first rfl
      refine .inr ⟨set, listed, ?_⟩
      obtain ⟨d, more, split, blank⟩ | empty | same := reads_cases h gap solid.stops
      · obtain ⟨rfl, -⟩ := List.cons.inj split
        have code : c.toNat ∈ [9, 10, 11, 12, 13, 32] := by
          rw [isBlank_iff] at blank
          simp only [List.mem_cons, List.not_mem_nil, or_false]
          omega
        rw [List.any_eq_true.2 ⟨_, code, holds⟩, Bool.or_true]
      · cases empty
      · obtain ⟨d, known, rfl⟩ := List.exists_cons_of_ne_nil some
        obtain ⟨after, rfl⟩ := begins
        obtain ⟨rfl, -⟩ := List.cons.inj same
        simp [holds]

def opensName (l : Lexeme) : Bool :=
  match l.pattern.literal? with
  | some (c :: tail) => c.toNat ≤ 32 ||
    decide (IsStart c) && !language.reserved.contains (String.ofList (c :: tail))
  | _ => true

theorem opensName_of_reads (h : language.Reads l (g ++ (name ++ rest)) text s')
    (matched : identifier.Matches name) (free : String.ofList name ∉ language.reserved)
    (gap : Gap g) (ends : Ends rest) : opensName l = true := by
  have solid : Solid (name ++ rest) := (solid_of_identifier matched).append rest
  have spelled : l.pattern.Matches text := matches_of_reads h gap solid
  unfold opensName
  split
  · rename_i c tail literal
    by_cases past : 32 < c.toNat
    · have visible : ¬ IsBlank c := by
        rw [isBlank_iff]
        omega
      obtain ⟨rfl, split⟩ := reads_literal h spelled literal visible gap solid.stops
      have unreserved : String.ofList (c :: tail) ∉ language.reserved := fun reserved =>
        not_reads_reserved reserved matched free split.symm ends h
      obtain ⟨d, name', rfl, start, -⟩ := identifier_matches_iff.1 matched
      obtain ⟨rfl, -⟩ := List.cons.inj split
      rw [← List.contains_iff_mem, Bool.not_eq_true] at unreserved
      rw [unreserved, decide_eq_true start]
      simp
    · simp [Nat.not_lt.1 past]
  · rfl

def opensEnd (l : Lexeme) : Bool :=
  l.pattern.nullable || l.pattern.firsts.any fun set => set.contains 0

theorem skips_nil {s v : List Char} (h : language.Skips s v) (empty : s = []) : v = [] := by
  induction h with
  | done => exact empty
  | blank => cases empty
  | extra _ _ _ _ ih => exact ih (List.append_eq_nil_iff.1 empty).2

theorem opensEnd_of_reads (h : language.Reads l [] text s') : opensEnd l = true := by
  obtain ⟨rfl, rfl⟩ := List.append_eq_nil_iff.1 (skips_nil h.skipped rfl)
  unfold opensEnd
  rw [Bool.or_eq_true, List.any_eq_true]
  obtain spelled | ⟨-, -, null⟩ := h.spelled
  · exact .inl (spelled.nullable rfl)
  · exact .inr (null.first rfl)

end TagIndex.Go
