import TagIndex.Grammar.Pattern

/-! Grammar rules: how phrases are put together from tokens and other phrases. -/

namespace TagIndex.Grammar

inductive Assoc where
  | left
  | right
deriving BEq, DecidableEq, Hashable, Inhabited, Repr

inductive Rule (α : Type) where
  | blank
  | leaf (a : α)
  | choice (alternatives : List (Rule α))
  | seq (parts : List (Rule α))
  | repeat1 (body : Rule α)
  /-- Settles between going on with a phrase and ending it. -/
  | prec (level : Int) (assoc : Option Assoc) (body : Rule α)
  /-- Settles between two readings of the same text. -/
  | weigh (weight : Int) (body : Rule α)
  | called (name : String) (body : Rule α)
  | field (name : String) (body : Rule α)
deriving BEq, Inhabited

inductive Leaf where
  | token (lexeme : Lexeme)
  | rule (name : String)
deriving BEq, Inhabited

abbrev Phrase := Rule Leaf

/-- The description of a context-free language with its lexical conventions. The first rule derives
whole texts. -/
structure Description where
  rules : List (String × Phrase)
  extras : List String
  blanks : Text.CharSet
  inlined : List String
  /-- Rules whose only purpose is to group alternatives; they keep their place in the table. -/
  supertypes : List String
  word : String
  reserved : List String

namespace Phrase

def lit (s : String) : Phrase := .leaf (.token (.ofText s))

def tok (p : Pattern) : Phrase := .leaf (.token (.ofPattern p))

def ref (name : String) : Phrase := .leaf (.rule name)

def oneOf (alternatives : List Phrase) : Phrase :=
  .choice (alternatives.flatMap fun
    | .choice inner => inner
    | r => [r])

def opt (r : Phrase) : Phrase := oneOf [r, .blank]

def many (r : Phrase) : Phrase := oneOf [.repeat1 r, .blank]

def sepBy1 (r separator : Phrase) : Phrase := .seq [r, many (.seq [separator, r])]

def commaSep1 (r : Phrase) : Phrase := sepBy1 r (lit ",")

def commaSep (r : Phrase) : Phrase := opt (commaSep1 r)

def sepEnd (r separator : Phrase) : Phrase :=
  opt (.seq [r, many (.seq [separator, r]), opt separator])

end Phrase
end TagIndex.Grammar
