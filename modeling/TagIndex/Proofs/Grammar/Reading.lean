import TagIndex.Proofs.Grammar.Derivation
import TagIndex.Proofs.Tree.Places

/-! How a text is read by a grammar, from left to right: each phrase begins where the phrase before
it ended, and leaves the rest of the text to those after it. -/

namespace TagIndex

structure Tree.Stands (source : String) (text after : List Char) (t : Tree) : Prop where
  leaf : t.children = []
  place : ∃ before, source.toList = before ++ (text ++ after) ∧ t.Splits source before text ∧
    t.start.row = before.count '\n'

namespace Grammar
open Text

namespace Description

def tokenOf? (d : Description) (name : String) : Option Lexeme := (d.rule? name).bind d.soleToken?

/-- Keywords are words, and so is all else that the token for words matches. -/
def IsWord (d : Description) (text : List Char) : Prop :=
  ∃ l, d.tokenOf? d.word = some l ∧ l.pattern.Matches text

inductive Skips (d : Description) : List Char → List Char → Prop
  | done {s : List Char} : Skips d s s
  | blank {c : Char} {s s' : List Char} (isBlank : d.blanks.contains c.toNat = true)
      (rest : Skips d s s') : Skips d (c :: s) s'
  | extra {name : String} {l : Lexeme} {text s s' : List Char} (listed : name ∈ d.extras)
      (token : d.tokenOf? name = some l) (spelled : l.pattern.Matches text)
      (rest : Skips d s s') : Skips d (text ++ s) s'

/-- What is left of the text is `s`, and a token is read off it as `text`. Then `s'` is left. A
token reaches as far as it can, and no word is cut. The end of the text counts as a null
character. -/
structure Reads (d : Description) (l : Lexeme) (s text s' : List Char) : Prop where
  skipped : d.Skips s (text ++ s')
  adjacent : l.adjacent = true → s = text ++ s'
  spelled : l.pattern.Matches text ∨ text = [] ∧ s' = [] ∧ l.pattern.Matches ['\x00']
  longest : ∀ longer, longer <+: text ++ s' → l.pattern.Matches longer →
    longer.length ≤ text.length
  uncut : d.IsWord text → ∀ longer, longer <+: text ++ s' → d.IsWord longer →
    longer.length ≤ text.length
  unreserved : d.tokenOf? d.word = some l → String.ofList text ∉ d.reserved

end Description

inductive Parses (d : Description) (source : String) :
    Role → Phrase → List Char → List Tree → List Char → Prop
  | blank {role : Role} {s : List Char} : Parses d source role .blank s [] s
  | token {role : Role} {l : Lexeme} {t : Tree} {s text s' : List Char} (part : t.belongs)
      (shown : role.aliasName.isSome ∨ l.spelling.isSome)
      (shows : Shows t (l.spelling.getD "") false role) (read : d.Reads l s text s')
      (stands : t.Stands source text s') : Parses d source role (.leaf (.token l)) s [t] s'
  | hiddenToken {role : Role} {l : Lexeme} {s text s' : List Char}
      (unnamed : role.aliasName = none) (unspelled : l.spelling = none)
      (read : d.Reads l s text s') : Parses d source role (.leaf (.token l)) s [] s'
  | tokenRule {role : Role} {name : String} {body : Phrase} {l : Lexeme} {t : Tree}
      {s text s' : List Char} (rule : d.rule? name = some body)
      (sole : d.soleToken? body = some l) (part : t.belongs)
      (shown : role.aliasName.isSome ∨ isHidden name = false)
      (shows : Shows t name true role) (read : d.Reads l s text s')
      (stands : t.Stands source text s') : Parses d source role (.leaf (.rule name)) s [t] s'
  | rule {role : Role} {name : String} {body : Phrase} {t : Tree} {s s' : List Char}
      (rule : d.rule? name = some body) (sole : d.soleToken? body = none)
      (part : t.belongs)
      (shown : role.aliasName.isSome ∨ isHidden name = false)
      (shows : Shows t name true role) (between : Interspersed d source t)
      (parsed : Parses d source {} body s t.parts s') :
      Parses d source role (.leaf (.rule name)) s [t] s'
  | hiddenRule {role : Role} {name : String} {body : Phrase} {ts : List Tree} {s s' : List Char}
      (rule : d.rule? name = some body) (unnamed : role.aliasName = none)
      (hidden : isHidden name = true) (parsed : Parses d source role body s ts s') :
      Parses d source role (.leaf (.rule name)) s ts s'
  | choice {role : Role} {r : Phrase} {rs : List Phrase} {ts : List Tree} {s s' : List Char}
      (chosen : r ∈ rs) (parsed : Parses d source role r s ts s') :
      Parses d source role (.choice rs) s ts s'
  | done {role : Role} {s : List Char} : Parses d source role (.seq []) s [] s
  | next {role : Role} {r : Phrase} {rs : List Phrase} {ts us : List Tree} {s m s' : List Char}
      (first : Parses d source role r s ts m) (rest : Parses d source role (.seq rs) m us s') :
      Parses d source role (.seq (r :: rs)) s (ts ++ us) s'
  | once {role : Role} {r : Phrase} {ts : List Tree} {s s' : List Char}
      (parsed : Parses d source role r s ts s') : Parses d source role (.repeat1 r) s ts s'
  | again {role : Role} {r : Phrase} {ts us : List Tree} {s m s' : List Char}
      (first : Parses d source role r s ts m)
      (rest : Parses d source role (.repeat1 r) m us s') :
      Parses d source role (.repeat1 r) s (ts ++ us) s'
  | prec {role : Role} {level : Int} {assoc : Option Assoc} {r : Phrase} {ts : List Tree}
      {s s' : List Char} (parsed : Parses d source role r s ts s') :
      Parses d source role (.prec level assoc r) s ts s'
  | weigh {role : Role} {weight : Int} {r : Phrase} {ts : List Tree} {s s' : List Char}
      (parsed : Parses d source role r s ts s') : Parses d source role (.weigh weight r) s ts s'
  | called {role : Role} {name : String} {r : Phrase} {ts : List Tree} {s s' : List Char}
      (parsed : Parses d source (role.within ⟨some name, none⟩) r s ts s') :
      Parses d source role (.called name r) s ts s'
  | field {role : Role} {name : String} {r : Phrase} {ts : List Tree} {s s' : List Char}
      (parsed : Parses d source (role.within ⟨none, some name⟩) r s ts s') :
      Parses d source role (.field name r) s ts s'

structure Parsed (d : Description) (start source : String) (tree : Tree) : Prop where
  clean : ∀ u ∈ tree.preorder, u.isBad = false
  reads : ∃ rest, Parses d source {} (Phrase.ref start) source.toList [tree] rest ∧ d.Skips rest []

variable {d : Description} {source : String} {role : Role} {r : Phrase} {rs : List Phrase}
  {ts : List Tree} {s s' : List Char}

theorem utf8ByteSize_eq (source : String) :
    source.utf8ByteSize = (Utf8.encode source.toList).length := by
  rw [← toByteArray_toList, Array.length_toList]
  rfl

theorem spelled_of_reads {l : Lexeme} {text : List Char} {t : Tree} (read : d.Reads l s text s')
    (stands : t.Stands source text s') : l.Spelled source t := by
  obtain ⟨before, split, splits, -⟩ := stands.place
  refine ⟨stands.leaf, .inr ⟨text, splits.bytesIn, read.spelled.imp_right ?_⟩⟩
  rintro ⟨rfl, rfl, null⟩
  refine ⟨rfl, ?_, null⟩
  rw [splits.start, utf8ByteSize_eq, split]
  simp

theorem Parses.derives (h : Parses d source role r s ts s') : Derives d source role r ts := by
  induction h with
  | blank => exact .blank
  | token part shown shows read stands =>
    exact .token part shown shows (spelled_of_reads read stands)
  | hiddenToken unnamed unspelled => exact .hiddenToken unnamed unspelled
  | tokenRule rule sole part shown shows read stands =>
    exact .tokenRule rule sole part shown shows (spelled_of_reads read stands)
  | rule rule sole part shown shows between _ ih =>
    exact .rule rule sole part shown shows between ih
  | hiddenRule rule unnamed hidden _ ih => exact .hiddenRule rule unnamed hidden ih
  | choice chosen _ ih => exact .choice chosen ih
  | done => exact .done
  | next _ _ ih ihs => exact .next ih ihs
  | once _ ih => exact .once ih
  | again _ _ ih ihs => exact .again ih ihs
  | prec _ ih => exact .prec ih
  | weigh _ ih => exact .weigh ih
  | called _ ih => exact .called ih
  | field _ ih => exact .field ih

theorem parses_blank : Parses d source role .blank s ts s' ↔ ts = [] ∧ s' = s := by
  constructor
  · rintro ⟨⟩
    exact ⟨rfl, rfl⟩
  · rintro ⟨rfl, rfl⟩
    exact .blank

theorem parses_done : Parses d source role (.seq []) s ts s' ↔ ts = [] ∧ s' = s := by
  constructor
  · rintro ⟨⟩
    exact ⟨rfl, rfl⟩
  · rintro ⟨rfl, rfl⟩
    exact .done

theorem parses_next : Parses d source role (.seq (r :: rs)) s ts s' ↔ ∃ us m vs,
    Parses d source role r s us m ∧ Parses d source role (.seq rs) m vs s' ∧ ts = us ++ vs := by
  constructor
  · intro h
    cases h with
    | next first rest => exact ⟨_, _, _, first, rest, rfl⟩
  · rintro ⟨us, m, vs, first, rest, rfl⟩
    exact .next first rest

theorem parses_choice : Parses d source role (.choice rs) s ts s' ↔
    ∃ r ∈ rs, Parses d source role r s ts s' := by
  constructor
  · intro h
    cases h with
    | choice chosen parsed => exact ⟨_, chosen, parsed⟩
  · rintro ⟨r, chosen, parsed⟩
    exact .choice chosen parsed

theorem parses_oneOf : Parses d source role (Phrase.oneOf rs) s ts s' ↔
    ∃ r ∈ rs, Parses d source role r s ts s' := by
  rw [Phrase.oneOf, parses_choice]
  constructor
  · rintro ⟨r, chosen, parsed⟩
    obtain ⟨outer, listed, among⟩ := List.mem_flatMap.1 chosen
    refine ⟨outer, listed, ?_⟩
    split at among
    · exact .choice among parsed
    · exact List.mem_singleton.1 among ▸ parsed
  · rintro ⟨outer, listed, parsed⟩
    by_cases flat : ∃ inner, outer = .choice inner
    · obtain ⟨inner, rfl⟩ := flat
      obtain ⟨r, chosen, parsed⟩ := parses_choice.1 parsed
      exact ⟨r, List.mem_flatMap.2 ⟨_, listed, chosen⟩, parsed⟩
    · refine ⟨outer, List.mem_flatMap.2 ⟨_, listed, ?_⟩, parsed⟩
      cases outer <;> simp_all

theorem parses_opt : Parses d source role (Phrase.opt r) s ts s' ↔
    Parses d source role r s ts s' ∨ ts = [] ∧ s' = s := by
  simp [Phrase.opt, parses_oneOf, parses_blank]

theorem parses_many : Parses d source role (Phrase.many r) s ts s' ↔
    (ts = [] ∧ s' = s) ∨ ∃ us m vs, Parses d source role r s us m ∧
      Parses d source role (Phrase.many r) m vs s' ∧ ts = us ++ vs := by
  have unfolded {ts : List Tree} {s s' : List Char} : Parses d source role (Phrase.many r) s ts s' ↔
      Parses d source role (.repeat1 r) s ts s' ∨ ts = [] ∧ s' = s := by
    simp [Phrase.many, parses_oneOf, parses_blank]
  constructor
  · intro h
    obtain h | none := unfolded.1 h
    · refine .inr ?_
      cases h with
      | once parsed => exact ⟨ts, s', [], parsed, unfolded.2 (.inr ⟨rfl, rfl⟩), by simp⟩
      | again first rest => exact ⟨_, _, _, first, unfolded.2 (.inl rest), rfl⟩
    · exact .inl none
  · rintro (none | ⟨us, m, vs, first, rest, rfl⟩)
    · exact unfolded.2 (.inr none)
    · obtain rest | ⟨rfl, rfl⟩ := unfolded.1 rest
      · exact unfolded.2 (.inl (.again first rest))
      · exact unfolded.2 (.inl (by simpa using .once first))

theorem parses_prec {level : Int} {assoc : Option Assoc} :
    Parses d source role (.prec level assoc r) s ts s' ↔ Parses d source role r s ts s' := by
  constructor
  · rintro ⟨⟩
    assumption
  · exact .prec

theorem parses_weigh {weight : Int} :
    Parses d source role (.weigh weight r) s ts s' ↔ Parses d source role r s ts s' := by
  constructor
  · rintro ⟨⟩
    assumption
  · exact .weigh

theorem parses_called {name : String} : Parses d source role (.called name r) s ts s' ↔
    Parses d source (role.within ⟨some name, none⟩) r s ts s' := by
  constructor
  · rintro ⟨⟩
    assumption
  · exact .called

theorem parses_field {name : String} : Parses d source role (.field name r) s ts s' ↔
    Parses d source (role.within ⟨none, some name⟩) r s ts s' := by
  constructor
  · rintro ⟨⟩
    assumption
  · exact .field

theorem parses_lit {text : String} : Parses d source role (Phrase.lit text) s ts s' ↔
    ∃ t read, ts = [t] ∧ t.belongs ∧ Shows t text false role ∧
      d.Reads (.ofText text) s read s' ∧ t.Stands source read s' := by
  constructor
  · intro h
    cases h with
    | token part _ shows read stands => exact ⟨_, _, rfl, part, shows, read, stands⟩
    | hiddenToken _ unspelled => cases unspelled
  · rintro ⟨t, read, rfl, part, shows, reads, stands⟩
    exact .token part (.inr rfl) shows reads stands

variable {name : String} {body : Phrase}

theorem parses_shown (rule : d.rule? name = some body) (whole : d.soleToken? body = none)
    (shown : isHidden name = false) : Parses d source role (Phrase.ref name) s ts s' ↔
      ∃ t, ts = [t] ∧ t.belongs ∧ Shows t name true role ∧ Interspersed d source t ∧
        Parses d source {} body s t.parts s' := by
  constructor
  · intro h
    cases h with
    | tokenRule rule' sole =>
      obtain rfl := Option.some.inj (rule.symm.trans rule')
      simp [whole] at sole
    | rule rule' _ part _ shows between parsed =>
      obtain rfl := Option.some.inj (rule.symm.trans rule')
      exact ⟨_, rfl, part, shows, between, parsed⟩
    | hiddenRule _ _ hidden _ => simp [shown] at hidden
  · rintro ⟨t, rfl, part, shows, between, parsed⟩
    exact .rule rule whole part (.inr shown) shows between parsed

theorem parses_sole {l : Lexeme} (rule : d.rule? name = some body)
    (sole : d.soleToken? body = some l) (shown : role.aliasName.isSome ∨ isHidden name = false) :
    Parses d source role (Phrase.ref name) s ts s' ↔
      ∃ t text, ts = [t] ∧ t.belongs ∧ Shows t name true role ∧ d.Reads l s text s' ∧
        t.Stands source text s' := by
  constructor
  · intro h
    cases h with
    | tokenRule rule' sole' part _ shows read stands =>
      obtain rfl := Option.some.inj (rule.symm.trans rule')
      obtain rfl := Option.some.inj (sole.symm.trans sole')
      exact ⟨_, _, rfl, part, shows, read, stands⟩
    | rule rule' whole =>
      obtain rfl := Option.some.inj (rule.symm.trans rule')
      simp [sole] at whole
    | hiddenRule _ unnamed hidden _ => simp [unnamed, hidden] at shown
  · rintro ⟨t, text, rfl, part, shows, read, stands⟩
    exact .tokenRule rule sole part shown shows read stands

theorem parses_hidden (rule : d.rule? name = some body) (hidden : isHidden name = true)
    (unnamed : role.aliasName = none) : Parses d source role (Phrase.ref name) s ts s' ↔
      Parses d source role body s ts s' := by
  constructor
  · intro h
    cases h with
    | tokenRule _ _ _ shown => simp [unnamed, hidden] at shown
    | rule _ _ _ shown => simp [unnamed, hidden] at shown
    | hiddenRule rule' _ _ parsed =>
      obtain rfl := Option.some.inj (rule.symm.trans rule')
      exact parsed
  · exact .hiddenRule rule unnamed hidden

end Grammar
end TagIndex
