import TagIndex.Parsing.Parser
import TagIndex.Tree

/-! The tree that a reader sees: hidden phrases give way to their children, and aliases and fields
apply. -/

namespace TagIndex.Parsing
open Table

def Mark.place (m : Mark) : Place := ⟨m.byte, m.row, m.column⟩

/-- Add the visible trees that a node comes to, given the alias and the field that the phrase
around it provides. -/
def Subtree.view (t : ParseTable) (aliasName field : Option String) (out : Array Tree) :
    Subtree → Array Tree
  | .node i cs =>
    let shape := t.shapes[i.shape]!
    let shown := aliasName.isSome || isVisible t i.symbol
    let inner := if shown then none else field
    -- Extra nodes are no steps of the phrase.
    let (out, children) := if shown then (out, #[]) else (#[], out)
    let (children, _) := cs.attach.foldl (fun (children, k) ⟨c, _⟩ =>
      if c.extra then (c.view t none none children, k)
      else
        let own := (shape.fields[k]?).getD none
        (c.view t ((shape.aliases[k]?).getD none) (own <|> inner) children, k + 1))
      (children, 0)
    if shown then
      let (kind, named) :=
        if i.symbol = errorSymbol then ("ERROR", true)
        else match aliasName with
          | some a => (a, true)
          | none =>
            let a := t.appearances[i.symbol]!
            (a.name, a.named)
      out.push (.node {
        kind, named, field
        start := i.start.place
        stop := i.stop.byte
        extra := i.extra
        error := i.symbol == errorSymbol
        missing := i.missing
        hasError := 0 < (Subtree.node i cs).errorCost } children.toList)
    else children

def parseTree (t : ParseTable) (source : String) : Tree :=
  ((parseText t source.toList.toArray).view t none none #[])[0]?.getD default

end TagIndex.Parsing
