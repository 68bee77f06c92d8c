import Std.Data.HashMap
import TagIndex.Table.Item
import TagIndex.Table.State

/-! The canonical table: one state for each set of items with lookahead. Competing actions are
settled by precedence and by grouping; where neither decides, all of them are kept and the parser
follows each. -/

namespace TagIndex.Table
open Grammar

structure KernelEntry where
  item : Nat
  look : SmallSet
deriving BEq, Hashable, Inhabited

abbrev Kernel := Array KernelEntry

structure Context where
  grammar : Plain
  items : ItemTable
  first : Array SmallSet
  beginnings : Array (Array Beginning)
  shapeOf : Array Nat

structure Construction where
  kernels : Array Kernel
  numbers : Std.HashMap Kernel Nat
  cores : Std.HashMap (Array Nat) Nat
  coreOf : Array Nat
  states : Array State

namespace Construction

def number (c : Construction) (k : Kernel) : Construction × Nat :=
  match c.numbers[k]? with
  | some n => (c, n)
  | none =>
    let n := c.kernels.size
    let coreKey := k.map (·.item)
    let (cores, core) := match c.cores[coreKey]? with
      | some core => (c.cores, core)
      | none => (c.cores.insert coreKey c.cores.size, c.cores.size)
    ({ c with kernels := c.kernels.push k, numbers := c.numbers.insert k n, cores,
              coreOf := c.coreOf.push core }, n)

end Construction

def normalize (entries : Array KernelEntry) : Kernel :=
  if entries.size ≤ 1 then entries
  else (entries.qsort fun a b => a.item < b.item).foldl (fun out e =>
    match out.back? with
    | some last => if last.item = e.item then out.pop.push ⟨e.item, last.look ∪ e.look⟩
      else out.push e
    | none => out.push e) #[]

/-- The phrases that may begin at the marks of a kernel, each with the tokens that may follow
it. -/
def closure (ctx : Context) (kernel : Kernel) : Array Nat × Array SmallSet :=
  let blank : Array Bool × Array Nat × Array SmallSet :=
    (Array.replicate ctx.grammar.symbolCount false, #[],
      Array.replicate ctx.grammar.symbolCount .empty)
  let (_, phrases, follows) := kernel.foldl (fun acc e =>
    match ctx.items.next[e.item]! with
    | none => acc
    | some symbol =>
      let after := match ctx.items.afterNext[e.item]! with
        | some a => ctx.first[a]!
        | none => e.look
      (ctx.beginnings[symbol]!).foldl (fun (seen, phrases, follows) b =>
        let add := if b.mayEnd then b.fixed ∪ after else b.fixed
        let follows := follows.modify b.phrase (· ∪ add)
        if seen[b.phrase]! then (seen, phrases, follows)
        else (seen.set! b.phrase true, phrases.push b.phrase, follows)) acc) blank
  (phrases, follows)

structure Contest where
  actions : List Action := []
  prec : Int := 0
  /-- Some of them group to the left, do not group, or group to the right. -/
  left : Bool := false
  none : Bool := false
  right : Bool := false
deriving Inhabited

/-- Enter a reduction: a higher precedence displaces those before it, a lower one is dropped. -/
def Contest.enter (c : Contest) (action : Action) (prec : Int) (assoc : Option Assoc) : Contest :=
  let keep (c : Contest) : Contest :=
    { c with
      prec
      left := c.left || assoc == some .left
      none := c.none || assoc == Option.none
      right := c.right || assoc == some .right }
  if c.actions.isEmpty || c.prec < prec then keep { actions := [action] }
  else if prec < c.prec then c
  else keep { c with actions := c.actions ++ [action] }

def Contest.settle (c : Contest) (ctx : Context) (kernel : Kernel) (token target : Nat) :
    List Action :=
  let shift (again : Bool) : Action := .shift target again
  if c.actions.isEmpty then [shift false] else
  let items := ctx.items.items
  let readers := kernel.filter fun e =>
    0 < (items[e.item]!).dot && (match ctx.items.next[e.item]! with
      | some s => (ctx.first[s]!).contains token
      | Option.none => false)
  let enders := kernel.filter fun e =>
    (ctx.items.next[e.item]!).isNone && e.look.contains token
  let heads := (readers ++ enders).toList.map fun e => (items[e.item]!).production.head
  let repeats := match heads with
    | h :: rest => h < ctx.grammar.symbolCount && (ctx.grammar.phrase! h).helper &&
        rest.all (· == h)
    | [] => false
  if repeats then c.actions ++ [shift true]
  else
    let precs := readers.map fun e => ((items[e.item]!).prec).getD 0
    let more := precs.any (c.prec < ·)
    let less := precs.any (· < c.prec)
    if more && !less then [shift false]
    else if less && !more then c.actions
    else if !less && !more then
      if c.left && !c.none && !c.right then c.actions
      else if c.right && !c.none && !c.left then [shift false]
      else c.actions ++ [shift false]
    else c.actions ++ [shift false]

def reductions (ctx : Context) (kernel : Kernel) (phrases : Array Nat)
    (follows : Array SmallSet) : Array Contest :=
  let items := ctx.items.items
  let g := ctx.grammar
  let finish (contests : Array Contest) (item : Nat) (look : SmallSet) : Array Contest :=
    let i := items[item]!
    let action : Action :=
      if i.production.head = g.symbolCount then .accept
      else .reduce i.production.head i.dot i.production.weight ctx.shapeOf[item]!
    (List.range g.firstPhrase).foldl (fun contests t =>
      if look.contains t then contests.modify t (·.enter action (i.prec.getD 0) i.assoc)
      else contests) contests
  let contests := phrases.foldl (fun contests v =>
    (ctx.items.starts[v]!).foldl (fun contests item =>
      if (ctx.items.next[item]!).isNone then finish contests item follows[v]! else contests)
      contests) (Array.replicate g.firstPhrase ({} : Contest))
  kernel.foldl (fun contests e =>
    if (ctx.items.next[e.item]!).isNone then finish contests e.item e.look else contests) contests

def Construction.finishNext (ctx : Context) (c : Construction) (kernel : Kernel) : Construction :=
  let g := ctx.grammar
  let (phrases, follows) := closure ctx kernel
  let advance (out : Array (Array KernelEntry)) (item : Nat) (look : SmallSet) :
      Array (Array KernelEntry) :=
    match ctx.items.next[item]! with
    | some s => out.modify s (·.push ⟨ctx.items.successor[item]!, look⟩)
    | none => out
  let moves := phrases.foldl (fun out v =>
    (ctx.items.starts[v]!).foldl (fun out item => advance out item follows[v]!) out)
    (kernel.foldl (fun out e => advance out e.item e.look) (Array.replicate g.symbolCount #[]))
  let contests := reductions ctx kernel phrases follows
  let (c, actions) := (List.range g.firstPhrase).foldl (fun (c, actions) t =>
    let entries := moves[t]!
    if entries.isEmpty then (c, actions.push (contests[t]!).actions)
    else
      let (c, n) := c.number (normalize entries)
      (c, actions.push ((contests[t]!).settle ctx kernel t n))) (c, #[])
  let (c, gotos) := (List.range g.phrases.size).foldl (fun (c, gotos) v =>
    let entries := moves[g.firstPhrase + v]!
    if entries.isEmpty then (c, gotos.push 0)
    else
      let (c, n) := c.number (normalize entries)
      (c, gotos.push n)) (c, #[])
  let actions := g.extras.foldl (fun actions e => actions.modify e fun as =>
    if as.isEmpty then [.shiftExtra] else as) actions
  let core := c.coreOf[c.states.size]!
  { c with states := c.states.push ⟨actions, gotos, core⟩ }

def Construction.run (ctx : Context) : Nat → Construction → Construction
  | 0, c => c
  | fuel + 1, c =>
    match c.kernels[c.states.size]? with
    | none => c
    | some kernel => run ctx fuel (c.finishNext ctx kernel)

/-- The shapes of all items' productions, numbered; shape 0 is the plain one. -/
def numberShapes (g : Plain) (items : ItemTable) : Array Shape × Array Nat :=
  let names := fieldNames g
  let (shapes, _, shapeOf) := items.items.foldl (fun (shapes, known, out) i =>
    let s := if i.production.head < g.symbolCount then Shape.ofProduction g names i.production
      else .plain
    match known[s]? with
    | some n => (shapes, known, out.push n)
    | none => (shapes.push s, known.insert s shapes.size, out.push shapes.size))
    ((#[.plain], (∅ : Std.HashMap Shape Nat).insert .plain 0, #[]) :
      Array Shape × Std.HashMap Shape Nat × Array Nat)
  (shapes, shapeOf)

/-- The canonical states of a grammar. State 0 is where the parser is while it skips text, state 1
where it begins. -/
def canonicalStates (g : Plain) : Array State × Array Shape :=
  let items := ItemTable.build g
  let first := firstTokens g
  let (shapes, shapeOf) := numberShapes g items
  let ctx : Context := ⟨g, items, first, beginnings g first, shapeOf⟩
  let empty : Construction := ⟨#[], ∅, ∅, #[], #[]⟩
  let (c, _) := empty.number #[]
  let (c, _) := c.number #[⟨items.root, SmallSet.empty.insert 0⟩]
  ((c.run ctx 1000000).states, shapes)

end TagIndex.Table
