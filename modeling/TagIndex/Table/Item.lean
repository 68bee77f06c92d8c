import TagIndex.Data.Fixpoint
import TagIndex.Data.SmallSet
import TagIndex.Grammar.Production

/-! Items: productions with a mark that shows how much of them has been read. -/

namespace TagIndex.Table
open Grammar

structure Item where
  production : Production
  dot : Nat
  /-- A hidden phrase whose parts have names was read; its exact place matters. -/
  inherits : Bool
deriving Inhabited

namespace Item

def last? (i : Item) : Option Step :=
  if i.dot = 0 then none else i.production.steps[i.dot - 1]?

def prec (i : Item) : Option Int := i.last? >>= (·.prec)

def assoc (i : Item) : Option Assoc := i.last? >>= (·.assoc)

def next? (i : Item) : Option Nat := (i.production.steps[i.dot]?).map (·.symbol)

end Item

def compareOptions {α : Type} (cmp : α → α → Ordering) : Option α → Option α → Ordering
  | none, none => .eq
  | none, some _ => .lt
  | some _, none => .gt
  | some a, some b => cmp a b

def compareAssoc (a b : Assoc) : Ordering := compare (a == .right) (b == .right)

def compareSteps (a b : Step) : Ordering :=
  (compare a.symbol b.symbol).then <|
  (compareOptions compare a.prec b.prec).then <|
  (compareOptions compareAssoc a.assoc b.assoc).then <|
  (compareOptions compare a.aliasName b.aliasName).then <|
  compareOptions compare a.field b.field

/-- Steps that have been read differ only in the names that they give. -/
def compareRead (withSymbol : Bool) (a b : Step) : Ordering :=
  (compareOptions compare a.aliasName b.aliasName).then <|
  (compareOptions compare a.field b.field).then <|
  if withSymbol then compare a.symbol b.symbol else .eq

/-- The order of items within a state. Items that compare equal lead to the same trees and are
treated as one. -/
def Item.compare (a b : Item) : Ordering :=
  (Ord.compare a.dot b.dot).then <|
  (Ord.compare a.production.head b.production.head).then <|
  (Ord.compare a.production.weight b.production.weight).then <|
  (Ord.compare a.production.steps.size b.production.steps.size).then <|
  (compareOptions Ord.compare a.prec b.prec).then <|
  (compareOptions compareAssoc a.assoc b.assoc).then <|
  (Ord.compare a.inherits b.inherits).then <|
  (List.range a.production.steps.size).foldl (fun o k => o.then <|
    match a.production.steps[k]?, b.production.steps[k]? with
    | some s, some t => if k < a.dot then compareRead a.inherits s t else compareSteps s t
    | _, _ => .eq) .eq

/-- The names that the parts of each phrase get, seen from outside: its own, and those of hidden
phrases in it. -/
def fieldNames (g : Plain) : Array (List String) :=
  let grow (names : Array (List String)) : Array (List String) :=
    g.productions.foldl (fun names p =>
      let found := p.steps.toList.flatMap fun step =>
        step.field.toList ++
          (if g.isPhrase step.symbol && !(g.phrase! step.symbol).appearance.visible then
            names[step.symbol]! else [])
      names.modify p.head fun known => (known ++ found).eraseDups) names
  settleBy grow g.symbolCount (Array.replicate g.symbolCount [])

structure ItemTable where
  items : Array Item
  next : Array (Option Nat)
  afterNext : Array (Option Nat)
  successor : Array Nat
  starts : Array (Array Nat)
  root : Nat
deriving Inhabited

def itemsOf (passesNames : Nat → Bool) (p : Production) : Array Item :=
  (Array.range (p.steps.size + 1)).map fun dot =>
    ⟨p, dot, (p.steps.extract 0 dot).any fun step => passesNames step.symbol⟩

namespace ItemTable

def find (items : Array Item) (i : Item) (lo hi : Nat) : Nat :=
  if lo + 1 < hi then
    let mid := (lo + hi) / 2
    if (items[mid]!).compare i != .gt then find items i mid hi else find items i lo mid
  else lo
termination_by hi - lo

/-- The items of a grammar. A whole text is the first phrase; its production stands for a
phrase beyond all others. -/
def build (g : Plain) : ItemTable :=
  let names := fieldNames g
  let passesNames (symbol : Nat) : Bool :=
    g.isPhrase symbol && !(g.phrase! symbol).appearance.visible && names[symbol]! ≠ []
  let whole : Production := ⟨g.symbolCount, #[{ symbol := g.firstPhrase }], 0⟩
  let sorted := ((g.productions.push whole).flatMap (itemsOf passesNames)).qsort
    fun a b => a.compare b == .lt
  let items := sorted.foldl (fun out i =>
    match out.back? with
    | some last => if last.compare i == .eq then out else out.push i
    | none => out.push i) #[]
  let number (i : Item) : Nat := find items i 0 items.size
  let successor := items.map fun i =>
    if i.dot < i.production.steps.size then
      match (itemsOf passesNames i.production)[i.dot + 1]? with
      | some s => number s
      | none => 0
    else 0
  let starts := items.zipIdx.foldl (fun starts (i, k) =>
    if i.dot = 0 && i.production.head < g.symbolCount then
      starts.modify i.production.head (·.push k) else starts)
    (Array.replicate g.symbolCount #[])
  { items
    next := items.map (·.next?)
    afterNext := items.map fun i => (i.production.steps[i.dot + 1]?).map (·.symbol)
    successor
    starts
    root := number ⟨whole, 0, false⟩ }

end ItemTable

/-- For each symbol the tokens found at one end of the phrases that it stands for. -/
def endTokens (g : Plain) (edge : Array Step → Option Step) : Array SmallSet :=
  let own := (Array.range g.symbolCount).map fun s =>
    if s < g.firstPhrase then SmallSet.empty.insert s else .empty
  let grow (sets : Array SmallSet) : Array SmallSet :=
    g.productions.foldl (fun sets p =>
      match edge p.steps with
      | some step => sets.modify p.head (· ∪ sets[step.symbol]!)
      | none => sets) sets
  settleBy grow g.symbolCount own

def firstTokens (g : Plain) : Array SmallSet := endTokens g (·[0]?)

def lastTokens (g : Plain) : Array SmallSet := endTokens g (·.back?)

def followingTokens (g : Plain) : Array SmallSet :=
  let first := firstTokens g
  let last := lastTokens g
  let fromProductions := g.productions.foldl (fun sets p =>
    (List.range (p.steps.size - 1)).foldl (fun sets i =>
      let right := first[(p.steps[i + 1]!).symbol]!
      (last[(p.steps[i]!).symbol]!).toList.foldl (fun sets t =>
        sets.modify t (· ∪ right)) sets) sets)
    (Array.replicate g.firstPhrase SmallSet.empty)
  let all := SmallSet.ofList ((List.range g.tokens.size).map (· + 1))
  g.extras.foldl (fun sets e => (sets.map (·.insert e)).set! e all) fromProductions

structure Beginning where
  phrase : Nat
  fixed : SmallSet
  mayEnd : Bool
deriving Inhabited

def beginnings (g : Plain) (first : Array SmallSet) : Array (Array Beginning) :=
  let count := g.symbolCount
  -- Pairs of a phrase and a phrase that begins one of its productions.
  let edges : Array (Nat × Nat × Option Nat) := g.productions.filterMap fun p =>
    match p.steps[0]? with
    | some step => if g.isPhrase step.symbol then
        some (p.head, step.symbol, (p.steps[1]?).map (·.symbol)) else none
    | none => none
  let edges := edges.toList.eraseDups.toArray
  let byHead := edges.foldl (fun out e => out.modify e.1 (·.push e.2))
    (Array.replicate count (#[] : Array (Nat × Option Nat)))
  (Array.range count).map fun i =>
    if i < g.firstPhrase then #[] else
    let start : Array (Option (SmallSet × Bool)) :=
      (Array.replicate count none).set! i (some (.empty, true))
    let grow (known : Array (Option (SmallSet × Bool))) : Array (Option (SmallSet × Bool)) :=
      (Array.range count).foldl (fun known v =>
        match known[v]! with
        | none => known
        | some (fixed, isOpen) => (byHead[v]!).foldl (fun known (w, after) =>
            let add : SmallSet × Bool := match after with
              | some a => (first[a]!, false)
              | none => (fixed, isOpen)
            known.modify w fun
              | none => some add
              | some (f, o) => some (f ∪ add.1, o || add.2)) known) known
    let known := settleBy grow count start
    known.zipIdx.filterMap fun (entry, v) => entry.map fun (fixed, isOpen) => ⟨v, fixed, isOpen⟩

end TagIndex.Table
