import TagIndex.Parsing.Subtree

/-! The parser's stack: a graph in which several versions of the stack share what they have in
common. Versions that come to the same state at the same place are joined, so a node may have
several predecessors. -/

namespace TagIndex.Parsing
open Table

structure Link where
  node : Nat
  tree : Option Subtree
deriving Inhabited

structure StackNode where
  state : Nat
  position : Mark
  links : Array Link
  cost : Nat
  count : Nat
  weight : Int
deriving Inhabited

inductive Status where
  | active
  | paused (lookahead : Subtree)
  | halted
deriving Inhabited

def Status.isActive : Status → Bool
  | .active => true
  | _ => false

def Status.isPaused : Status → Bool
  | .paused _ => true
  | _ => false

def Status.isHalted : Status → Bool
  | .halted => true
  | _ => false

structure PastState where
  position : Mark
  depth : Nat
  state : Nat
deriving Inhabited

structure Head where
  node : Nat
  /-- The progress count when the last error was met. -/
  countAtError : Nat := 0
  past : Option (Array PastState) := none
  status : Status := .active
deriving Inhabited

structure Stack where
  nodes : Array StackNode
  heads : Array Head
deriving Inhabited

structure Slice where
  trees : Array Subtree
  version : Nat
deriving Inhabited

namespace Stack

def initial : Stack :=
  ⟨#[⟨1, .first, #[], 0, 0, 0⟩], #[{ node := 0 }]⟩

@[inline] def versionCount (s : Stack) : Nat := s.heads.size

@[inline] def top (s : Stack) (v : Nat) : StackNode := s.nodes[(s.heads[v]!).node]!

@[inline] def stateOf (s : Stack) (v : Nat) : Nat := (s.top v).state

@[inline] def positionOf (s : Stack) (v : Nat) : Mark := (s.top v).position

@[inline] def statusOf (s : Stack) (v : Nat) : Status := (s.heads[v]!).status

/-- The cost of the errors of a version; one that has just begun to skip has not counted them
yet. -/
def errorCost (s : Stack) (v : Nat) : Nat :=
  let node := s.top v
  let justBegun := node.state = 0 && (match node.links[0]? with
    | some l => l.tree.isNone
    | none => true)
  if (s.statusOf v).isPaused || justBegun then node.cost + costPerRecovery else node.cost

def countSinceError (s : Stack) (v : Nat) : Nat := (s.top v).count - (s.heads[v]!).countAtError

def clampCount (s : Stack) (v : Nat) : Stack :=
  let count := (s.top v).count
  if count < (s.heads[v]!).countAtError then
    { s with heads := s.heads.modify v fun h => { h with countAtError := count } }
  else s

def push (t : ParseTable) (s : Stack) (v : Nat) (tree : Option Subtree) (state : Nat) : Stack :=
  let head := s.heads[v]!
  let below := s.nodes[head.node]!
  let links := #[⟨head.node, tree⟩]
  let node : StackNode := match tree with
    | some x => ⟨state, x.info.stop, links, below.cost + x.errorCost, below.count + x.nodeCount t,
        below.weight + x.info.weight⟩
    | none => { below with state, links }
  let n := s.nodes.size
  let countAtError := if tree.isNone then node.count else head.countAtError
  { nodes := s.nodes.push node
    heads := s.heads.modify v fun h => { h with node := n, countAtError } }

def removeVersion (s : Stack) (v : Nat) : Stack := { s with heads := s.heads.eraseIdx! v }

def renumber (s : Stack) (source target : Nat) : Stack :=
  if source = target then s
  else
    let old := s.heads[target]!
    let new := s.heads[source]!
    let new := if new.past.isNone then { new with past := old.past } else new
    { s with heads := (s.heads.set! target new).eraseIdx! source }

def swapVersions (s : Stack) (v w : Nat) : Stack :=
  let a := s.heads[v]!
  let b := s.heads[w]!
  { s with heads := (s.heads.set! v b).set! w a }

/-- A new version like an old one, without its past. -/
def copyVersion (s : Stack) (v : Nat) : Stack :=
  { s with heads := s.heads.push { s.heads[v]! with past := none } }

def halt (s : Stack) (v : Nat) : Stack :=
  { s with heads := s.heads.modify v fun h => { h with status := .halted } }

def pause (s : Stack) (v : Nat) (lookahead : Subtree) : Stack :=
  let count := (s.top v).count
  { s with heads := s.heads.modify v fun h =>
      { h with status := .paused lookahead, countAtError := count } }

def resume (s : Stack) (v : Nat) : Stack :=
  { s with heads := s.heads.modify v fun h => { h with status := .active } }

/-- Two trees in the same place are as good as each other. -/
def equivalentTrees : Option Subtree → Option Subtree → Bool
  | none, none => true
  | some a, some b =>
    a.symbol == b.symbol &&
      ((a.errorCost > 0 && b.errorCost > 0) ||
        (a.info.start.byte - a.info.before.byte == b.info.start.byte - b.info.before.byte &&
          a.byteSize == b.byteSize && a.children.size == b.children.size &&
          a.extra == b.extra))
  | _, _ => false

def treeWeight (tree : Option Subtree) : Int :=
  match tree with
  | some x => x.info.weight
  | none => 0

def modifyNode (s : Stack) (node : Nat) (f : StackNode → StackNode) : Stack :=
  { s with nodes := s.nodes.modify node f }

/-- Give a node another predecessor, joining it with an equivalent one where that is possible.
The fuel bounds the depth of the graph. -/
def addLink (t : ParseTable) : Nat → Nat → Link → Stack → Stack
  | 0, _, _, s => s
  | fuel + 1, node, link, s =>
    if link.node = node then s
    else
      let self := s.nodes[node]!
      let other := s.nodes[link.node]!
      let rec find (links : List Link) (k : Nat) : Option (Nat × Link × Bool) :=
        match links with
        | [] => none
        | l :: rest =>
          if equivalentTrees l.tree link.tree then
            if l.node = link.node then some (k, l, true)
            else
              let below := s.nodes[l.node]!
              if below.state = other.state && below.position.byte = other.position.byte &&
                  below.cost = other.cost then some (k, l, false)
              else find rest (k + 1)
          else find rest (k + 1)
      match find self.links.toList 0 with
      | some (k, l, true) =>
        if treeWeight l.tree < treeWeight link.tree then
          s.modifyNode node fun n => { n with
            links := n.links.set! k { l with tree := link.tree }
            weight := other.weight + treeWeight link.tree }
        else s
      | some (_, l, false) =>
        let s := other.links.foldl (fun s inner => addLink t fuel l.node inner s) s
        let weight := other.weight + treeWeight link.tree
        s.modifyNode node fun n => { n with weight := max n.weight weight }
      | none =>
        if self.links.size = 8 then s
        else
          let added := match link.tree with
            | some x => x.nodeCount t
            | none => 0
          s.modifyNode node fun n => { n with
            links := n.links.push link
            count := max n.count (other.count + added)
            weight := max n.weight (other.weight + treeWeight link.tree) }

/-- Two versions are at the same place, in the same state and at the same cost. -/
def canMerge (s : Stack) (v w : Nat) : Bool :=
  (s.statusOf v).isActive && (s.statusOf w).isActive &&
    let a := s.top v
    let b := s.top w
    a.state == b.state && a.position.byte == b.position.byte && a.cost == b.cost

def merge (t : ParseTable) (s : Stack) (v w : Nat) : Stack :=
  let target := (s.heads[v]!).node
  let fuel := s.nodes.size
  let s := (s.top w).links.foldl (fun s link => addLink t fuel target link s) s
  let node := s.nodes[target]!
  let s := if node.state = 0 then
      { s with heads := s.heads.modify v fun h => { h with countAtError := node.count } }
    else s
  s.removeVersion w

structure Descent where
  node : Nat
  trees : Array Subtree
  count : Nat
deriving Inhabited

/-- Record a way that has ended. Ways that end at one node make one version. -/
def addSlice (s : Stack) (origin : Nat) (slices : Array Slice) (d : Descent) :
    Stack × Array Slice :=
  let trees := d.trees.reverse
  let last := (List.range slices.size).foldl (fun found i =>
    if (s.heads[(slices[i]!).version]!).node = d.node then some i else found) none
  match last with
  | some i =>
    let slice : Slice := ⟨trees, (slices[i]!).version⟩
    (s, slices.extract 0 (i + 1) ++ #[slice] ++ slices.extract (i + 1) slices.size)
  | none =>
    let v := s.heads.size
    let head : Head := { node := d.node, countAtError := (s.heads[origin]!).countAtError }
    ({ s with heads := s.heads.push head }, slices.push ⟨trees, v⟩)

structure Visit where
  take : Bool
  stop : Bool

def descend (d : Descent) (link : Link) : Descent :=
  match link.tree with
  | some x => ⟨link.node, d.trees.push x, if x.extra then d.count else d.count + 1⟩
  | none => ⟨link.node, d.trees, d.count + 1⟩

/-- Go down all ways at once, one link per round. `i` is the way to look at next and `size` the
number of ways of this round; the fuel bounds the number of looks. -/
def walk {σ : Type} (origin : Nat) (visit : Stack → σ → Descent → σ × Visit) :
    Nat → Array Descent → Nat → Nat → Stack → Array Slice → σ → Stack × Array Slice × σ
  | 0, _, _, _, s, slices, acc => (s, slices, acc)
  | fuel + 1, ways, i, size, s, slices, acc =>
    if ways.isEmpty then (s, slices, acc)
    else if size ≤ i then walk origin visit fuel ways 0 ways.size s slices acc
    else
      let d := ways[i]!
      let (acc, v) := visit s acc d
      let links := (s.nodes[d.node]!).links
      let (s, slices) := if v.take then addSlice s origin slices d else (s, slices)
      if v.stop || links.isEmpty then
        walk origin visit fuel (ways.eraseIdx! i) i (size - 1) s slices acc
      else
        let room := 64 - ways.size
        let others := (links.extract 1 links.size).extract 0 room
        let ways := (ways.set! i (descend d links[0]!)) ++ others.map (descend d)
        walk origin visit fuel ways (i + 1) size s slices acc

def walkFrom {σ : Type} (s : Stack) (v : Nat) (visit : Stack → σ → Descent → σ × Visit)
    (acc : σ) : Stack × Array Slice × σ :=
  let start : Descent := ⟨(s.heads[v]!).node, #[], 0⟩
  walk v visit (130 * (s.nodes.size + 1)) #[start] 0 1 s #[] acc

def popCount (s : Stack) (v count : Nat) : Stack × Array Slice :=
  let (s, slices, _) := s.walkFrom v (fun _ _ d =>
    ((), if d.count = count then ⟨true, true⟩ else ⟨false, false⟩)) ()
  (s, slices)

def popAll (s : Stack) (v : Nat) : Stack × Array Slice :=
  let (s, slices, _) := s.walkFrom v (fun s _ d =>
    ((), ⟨(s.nodes[d.node]!).links.isEmpty, false⟩)) ()
  (s, slices)

def popError (s : Stack) (v : Nat) : Stack × Array Subtree :=
  if (s.top v).links.any fun l => l.tree.any (·.isError) then
    let (s, slices, _) := s.walkFrom v (fun _ found d =>
      match d.trees[0]? with
      | some x => if !found && x.isError then (true, ⟨true, true⟩) else (found, ⟨false, true⟩)
      | none => (found, ⟨false, false⟩)) false
    match slices[0]? with
    | some slice => (s.renumber slice.version v, slice.trees)
    | none => (s, #[])
  else (s, #[])

/-- Note the states that a version has been in, down to a depth. -/
def recordPast (s : Stack) (v maxDepth : Nat) : Stack :=
  let (s, _, past) := s.walkFrom v (fun s (past : Array PastState) d =>
    if maxDepth < d.count then (past, ⟨false, true⟩)
    else
      let node := s.nodes[d.node]!
      -- Look back over the entries that are as deep.
      let rec known : List PastState → Bool
        | [] => false
        | e :: rest =>
          if e.depth < d.count then false
          else if e.depth = d.count && e.state = node.state then true
          else known rest
      if known past.toList.reverse then (past, ⟨false, false⟩)
      else (past.push ⟨node.position, d.count, node.state⟩, ⟨false, false⟩)) #[]
  { s with heads := s.heads.modify v fun h => { h with past := some past } }

end Stack
end TagIndex.Parsing
