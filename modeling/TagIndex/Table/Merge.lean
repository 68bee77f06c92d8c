import TagIndex.Table.TokenSets

/-! Joining states that agree, and leaving out states that only rename a phrase. -/

namespace TagIndex.Table
open Grammar Lexing

structure Profile where
  tokens : SmallSet
  /-- Numbers that stand for all actions of a token but the state that it is read into. -/
  kinds : Array Nat
  targets : Array Nat
  gotos : Array Nat
deriving Inhabited

def shiftTarget (as : List Action) : Nat :=
  match as.getLast? with
  | some (.shift n _) => n
  | _ => 0

def actionKind (as : List Action) : List Action :=
  as.map fun
    | .shift _ again => .shift 0 again
    | a => a

def profiles (states : Array State) : Array Profile :=
  let number (known : Std.HashMap (List Action) Nat) (s : State) :
      Std.HashMap (List Action) Nat × Array Nat :=
    s.actions.foldl (fun (known, out) as =>
      let kind := actionKind as
      match known[kind]? with
      | some n => (known, out.push n)
      | none => (known.insert kind known.size, out.push known.size)) (known, #[])
  (states.foldl (fun (known, out) s =>
    let (known, kinds) := number known s
    (known, out.push ⟨s.tokens, kinds, s.actions.map shiftTarget, s.gotos⟩))
    ((∅, #[]) : Std.HashMap (List Action) Nat × Array Profile)).2

structure Partition where
  groups : Array (Array Nat)
  groupOf : Array Nat

namespace Partition

def misfits (differ : Nat → Nat → Bool) (members : Array Nat) : Array Nat :=
  let rec go : List Nat → Array Nat → Array Nat
    | [], out => out
    | left :: rest, out =>
      if out.contains left then go rest out
      else go rest (rest.foldl (fun out right =>
        if !out.contains right && differ left right then out.push right else out) out)
  go members.toList #[]

/-- Split every group, also the new ones, by a difference that may depend on the groups; the fuel
bounds the number of groups. -/
def split (differ : Array Nat → Nat → Nat → Bool) : Nat → Nat → Partition → Partition
  | 0, _, p => p
  | fuel + 1, group, p =>
    match p.groups[group]? with
    | none => p
    | some members =>
      let out := misfits (differ p.groupOf) members
      if out.isEmpty then split differ fuel (group + 1) p
      else
        let fresh := p.groups.size
        split differ fuel (group + 1) {
          groups := (p.groups.set! group (members.filter fun s => !out.contains s)).push out
          groupOf := out.foldl (fun groupOf s => groupOf.set! s fresh) p.groupOf }

/-- Split until nothing changes; there are never more groups than states. -/
def splitFully (differ : Array Nat → Nat → Nat → Bool) : Nat → Partition → Partition
  | 0, p => p
  | fuel + 1, p =>
    let q := split differ (2 * p.groupOf.size) 0 p
    if q.groups.size = p.groups.size then q else splitFully differ fuel q

end Partition

/-- Some token of the first set that the second lacks cannot be valid beside the second. -/
def clashes (rivals : Array SmallSet) (a b : SmallSet) : Bool :=
  let only := a \ b
  !only.isEmpty && (List.range rivals.size).any fun t =>
    only.contains t && (rivals[t]!).meets b

/-- Two states of one core cannot be one: only one of them may stand at the end of the text, they do
different things with a token, or a token of one would be mistaken in the other. -/
def statesConflict (rivals : Array SmallSet) (ps : Array Profile) (groupOf : Array Nat)
    (l r : Nat) : Bool :=
  let a := ps[l]!
  let b := ps[r]!
  a.tokens.contains 0 != b.tokens.contains 0 ||
    clashes rivals a.tokens b.tokens || clashes rivals b.tokens a.tokens ||
    let both := a.tokens ∩ b.tokens
    (List.range a.kinds.size).any fun t => both.contains t &&
      (a.kinds[t]! != b.kinds[t]! ||
        (a.targets[t]! != b.targets[t]! && groupOf[a.targets[t]!]! != groupOf[b.targets[t]!]!))

def successorsDiffer (ps : Array Profile) (groupOf : Array Nat) (l r : Nat) : Bool :=
  let a := ps[l]!
  let b := ps[r]!
  let apart (m n : Nat) : Bool := m != n && m != 0 && n != 0 && groupOf[m]! != groupOf[n]!
  (List.range a.targets.size).any (fun t => apart a.targets[t]! b.targets[t]!) ||
    (List.range a.gotos.size).any fun v => apart a.gotos[v]! b.gotos[v]!

def Action.mapState (f : Nat → Nat) : Action → Action
  | .shift n again => .shift (f n) again
  | a => a

def State.mapStates (f : Nat → Nat) (s : State) : State :=
  { s with
    actions := s.actions.map fun as => as.map (Action.mapState f)
    gotos := s.gotos.map fun n => if n = 0 then 0 else f n }

def State.join (a b : State) : State :=
  { a with
    actions := a.actions.mapIdx fun t as => match b.actions[t]! with
      | [] => as
      | bs => bs
    gotos := a.gotos.mapIdx fun v n => if b.gotos[v]! = 0 then n else b.gotos[v]! }

/-- Join the states that have the same core and do not conflict, as far as the states that they
lead to can be joined as well. -/
def mergeStates (f : TokenFacts) (states : Array State) : Array State :=
  let wordPair (s t : Nat) : Bool :=
    (s == f.word && f.keywords.contains t) || (t == f.word && f.keywords.contains s)
  let rivals := f.table fun s t => !wordPair s t && f.conflicts s t
  let coreCount := states.foldl (fun n s => max n (s.core + 1)) 0
  let byCore := states.zipIdx.foldl (fun groups (s, i) => groups.modify s.core (·.push i))
    (Array.replicate coreCount #[])
  let ps := profiles states
  let start : Partition := ⟨byCore, states.map (·.core)⟩
  let compatible := Partition.split (statesConflict rivals ps) (2 * states.size) 0 start
  let p := Partition.splitFully (successorsDiffer ps) states.size compatible
  p.groups.map fun members =>
    let joined := members.toList.tail.foldl (fun s i => s.join states[i]!)
      (states[members[0]!]!)
    joined.mapStates fun n => p.groupOf[n]!

/-- The phrase that a state only renames its last node to, if it does nothing else. -/
def renamedTo? (isRename : Nat → Bool) (s : State) : Option Nat :=
  let rec go : List Action → Option Nat → Option Nat
    | [], found => found
    | .shiftExtra :: rest, found => go rest found
    | .reduce phrase 1 0 0 :: rest, found =>
      if isRename phrase && (found.isNone || found == some phrase) then go rest (some phrase)
      else none
    | _ :: _, _ => none
  go (s.actions.toList.flatten) none

def State.referenced (s : State) : List Nat :=
  s.actions.toList.flatten.filterMap (fun
    | .shift n _ => some n
    | _ => none) ++ s.gotos.toList.filter (· ≠ 0)

/-- Lead past the states that only rename a node to a hidden phrase. -/
def skipRenames (g : Plain) (states : Array State) : Array State :=
  let aliased (phrase : Nat) : Bool := g.productions.any fun p =>
    p.steps.any fun step => step.symbol == phrase && step.aliasName.isSome
  let isRename := (Array.range g.phrases.size).map fun v =>
    let e := g.phrases[v]!
    !e.appearance.visible && !e.supertype && !aliased (g.firstPhrase + v)
  let renamed := states.map (renamedTo? fun phrase => isRename[phrase - g.firstPhrase]!)
  let step (s : State) : State := s.mapStates fun n =>
    match renamed[n]! with
    | some phrase => match s.gotos[phrase - g.firstPhrase]! with
      | 0 => n
      | m => m
    | none => n
  -- A chain of renamings passes no phrase twice.
  let rec follow : Nat → State → State
    | 0, s => s
    | fuel + 1, s =>
      if s.referenced.any fun n => (renamed[n]!).isSome then follow fuel (step s) else s
  states.map (follow g.phrases.size)

/-- Drop the states that no state leads to, and put those with most entries first. -/
def arrangeStates (states : Array State) : Array State :=
  let used := states.foldl (fun used s => s.referenced.foldl (fun used n => used.set! n true) used)
    (((Array.replicate states.size false).set! 0 true).set! 1 true)
  let entries (s : State) : Nat :=
    (s.actions.filter fun as => !as.isEmpty).size + (s.gotos.filter (· ≠ 0)).size
  let sizes := states.map entries
  let kept := (List.range states.size).filter fun i => used[i]!
  let order := kept.take 2 ++ (kept.drop 2).mergeSort fun i j => sizes[j]! ≤ sizes[i]!
  let newNumber := order.zipIdx.foldl (fun out (old, new) => out.set! old new)
    (Array.replicate states.size 0)
  order.toArray.map fun i => (states[i]!).mapStates fun n => newNumber[n]!

end TagIndex.Table
