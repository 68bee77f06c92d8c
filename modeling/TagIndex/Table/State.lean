import TagIndex.Grammar.Production

/-! States of the parser and what it does in them. -/

namespace TagIndex.Table
open Grammar

inductive Action where
  /-- Read the token and go on in another state. An `again` shift only continues a repetition
  that could also be closed first; the parser always closes it. -/
  | shift (state : Nat) (again : Bool)
  | shiftExtra
  /-- Build a phrase out of the last `count` nodes. -/
  | reduce (phrase count : Nat) (weight : Int) (shape : Nat)
  | accept
  | recover
deriving BEq, DecidableEq, Hashable, Inhabited

/-- How the children of a node are named: the alias and the field that each step of the production
gives, and the fields that hidden phrases pass on. -/
structure Shape where
  aliases : Array (Option String)
  fields : Array (Option String)
  passed : Array (List String)
deriving BEq, Hashable, Inhabited

def trimEnd {α : Type} (blank : α → Bool) (a : Array α) : Array α :=
  a.extract 0 (a.size - (a.toList.reverse.takeWhile blank).length)

/-- The shape that a production gives to its nodes; `names` tells which names a hidden phrase
passes on. -/
def Shape.ofProduction (g : Plain) (names : Array (List String)) (p : Production) : Shape where
  aliases := trimEnd (·.isNone) (p.steps.map (·.aliasName))
  fields := trimEnd (·.isNone) (p.steps.map (·.field))
  passed := trimEnd (·.isEmpty) (p.steps.map fun step =>
    if g.isPhrase step.symbol && !(g.appearance step.symbol).visible then names[step.symbol]!
    else [])

def Shape.plain : Shape := ⟨#[], #[], #[]⟩

/-- A state: its actions per token, the states that phrases lead to (0 where none may follow),
and the number of its core, the items without their lookahead. -/
structure State where
  actions : Array (List Action)
  gotos : Array Nat
  core : Nat
deriving Inhabited

end TagIndex.Table
