import TagIndex.Parsing.Mark
import TagIndex.Table.ParseTable

/-! The parser's own trees. They hold every token, hidden phrases and the binary nodes of
repetitions, and they add up what the parser weighs: the cost of errors, how much of the tree
would be visible, and the weights of ambiguous phrases. -/

namespace TagIndex.Parsing
open Table

/-- The symbol of skipped text. It comes after all symbols of a grammar. -/
def errorSymbol : Nat := 65535

def skippingSymbol : Nat := 65534

def costPerRecovery : Nat := 500
def costPerMissing : Nat := 110
def costPerSkippedTree : Nat := 100
def costPerSkippedLine : Nat := 30

structure NodeInfo where
  symbol : Nat
  /-- Where the blanks in front of the node begin. -/
  before : Mark
  start : Mark
  stop : Mark
  extra : Bool := false
  missing : Bool := false
  keyword : Bool := false
  foundIn : Nat := 0
  shape : Nat := 0
  errorCost : Nat := 0
  visibleChildren : Nat := 0
  visibleDescendants : Nat := 0
  weight : Int := 0
deriving Inhabited

inductive Subtree where
  | node (info : NodeInfo) (children : Array Subtree)

instance : Inhabited Subtree := ⟨.node default #[]⟩

namespace Subtree

@[inline] def info : Subtree → NodeInfo
  | node i _ => i

@[inline] def children : Subtree → Array Subtree
  | node _ cs => cs

@[inline] def mapInfo (f : NodeInfo → NodeInfo) : Subtree → Subtree
  | node i cs => node (f i) cs

def symbol (t : Subtree) : Nat := t.info.symbol

def extra (t : Subtree) : Bool := t.info.extra

def isError (t : Subtree) : Bool := t.symbol == errorSymbol

def errorCost (t : Subtree) : Nat :=
  if t.info.missing then costPerMissing + costPerRecovery else t.info.errorCost

/-- Bytes of the node itself, without the blanks in front. -/
def byteSize (t : Subtree) : Nat := t.info.stop.byte - t.info.start.byte

def setExtra (extra : Bool) (t : Subtree) : Subtree := t.mapInfo fun i => { i with extra }

end Subtree

def isVisible (t : ParseTable) (symbol : Nat) : Bool :=
  if symbol = errorSymbol then true
  else if symbol = skippingSymbol then false
  else (t.appearances[symbol]!).visible

def Subtree.leaf (symbol : Nat) (before start stop : Mark) (foundIn : Nat) (keyword : Bool) :
    Subtree :=
  .node { symbol, before, start, stop, extra := symbol == 0, keyword, foundIn } #[]

def Subtree.missingLeaf (symbol : Nat) (mark : Mark) : Subtree :=
  .node { symbol, before := mark, start := mark, stop := mark, missing := true } #[]

structure Sums where
  cost : Nat := 0
  visible : Nat := 0
  descendants : Nat := 0
  weight : Int := 0
  steps : Nat := 0

def Sums.add (t : ParseTable) (symbol : Nat) (aliases : Array (Option String)) (s : Sums)
    (child : Subtree) : Sums :=
  let i := child.info
  let shown := isVisible t i.symbol
  let grandchildren := !child.children.isEmpty
  let cost := if i.symbol = skippingSymbol then s.cost else s.cost + child.errorCost
  let cost :=
    if (symbol = errorSymbol || symbol = skippingSymbol) && !i.extra &&
        !(child.isError && !grandchildren) then
      if shown then cost + costPerSkippedTree
      else cost + costPerSkippedTree * i.visibleChildren
    else cost
  let aliased := !i.extra && i.symbol ≠ 0 && ((aliases[s.steps]?).getD none).isSome
  let weight := s.weight + i.weight
  let steps := if i.extra then s.steps else s.steps + 1
  if aliased || shown then
    ⟨cost, s.visible + 1, s.descendants + i.visibleDescendants + 1, weight, steps⟩
  else
    ⟨cost, s.visible + i.visibleChildren, s.descendants + i.visibleDescendants, weight, steps⟩

/-- A node over children. A node without children stands at the given place. -/
def Subtree.branch (t : ParseTable) (symbol : Nat) (children : Array Subtree) (shape : Nat)
    (place : Mark) : Subtree :=
  let aliases := (t.shapes[shape]!).aliases
  let sums := children.foldl (Sums.add t symbol aliases) {}
  let (before, start, stop) := match children[0]?, children.back? with
    | some a, some z => (a.info.before, a.info.start, z.info.stop)
    | _, _ => (place, place, place)
  let cost :=
    if symbol = errorSymbol || symbol = skippingSymbol then
      sums.cost + costPerRecovery + (stop.byte - start.byte) +
        costPerSkippedLine * (stop.row - start.row)
    else sums.cost
  .node { symbol, before, start, stop, shape, errorCost := cost,
          visibleChildren := sums.visible, visibleDescendants := sums.descendants,
          weight := sums.weight } children

def Subtree.errorNode (t : ParseTable) (children : Array Subtree) (extra : Bool)
    (place : Mark) : Subtree :=
  (Subtree.branch t errorSymbol children 0 place).setExtra extra

def Subtree.nodeCount (t : ParseTable) (s : Subtree) : Nat :=
  s.info.visibleDescendants +
    (if isVisible t s.symbol || s.symbol = skippingSymbol then 1 else 0)

def splitTrailingExtras (trees : Array Subtree) : Array Subtree × Array Subtree :=
  let count := (trees.toList.reverse.takeWhile (·.extra)).length
  (trees.extract 0 (trees.size - count), trees.extract (trees.size - count) trees.size)

/-- The place of a symbol in the order in which trees are compared: words before other tokens. -/
def symbolRank (t : ParseTable) (symbol : Nat) : Nat :=
  if symbol = t.word then 1
  else if 0 < symbol && symbol < t.word then symbol + 1
  else symbol

/-- The order of trees over the same text, by symbol and number of children, from the root on. The
fuel bounds the number of nodes. -/
def compareTrees (t : ParseTable) : Nat → List (Subtree × Subtree) → Ordering
  | 0, _ => .eq
  | _, [] => .eq
  | fuel + 1, (a, b) :: rest =>
    let o := (compare (symbolRank t a.symbol) (symbolRank t b.symbol)).then
      (compare a.children.size b.children.size)
    if o = .eq then
      compareTrees t fuel ((a.children.zip b.children).toList ++ rest)
    else o

end TagIndex.Parsing
