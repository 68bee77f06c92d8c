import TagIndex.Parsing.Stack
import TagIndex.Parsing.Token

/-! The parser's state, and how it weighs the versions of its stack against each other. -/

namespace TagIndex.Parsing
open Table

def maxVersions : Nat := 6

def spareVersions : Nat := 4

/-- A version this much worse than another is given up. -/
def maxCostDifference : Nat := 18 * costPerSkippedTree

def maxPastDepth : Nat := 16

structure Parser where
  stack : Stack
  lastToken : Option Subtree
  finished : Option Subtree
  finishedCount : Nat
deriving Inhabited

structure Standing where
  cost : Nat
  count : Nat
  weight : Int
  inError : Bool

inductive Preference where
  | takeLeft
  | preferLeft
  | none
  | preferRight
  | takeRight

def Standing.compare (a b : Standing) : Preference :=
  if !a.inError && b.inError then
    if a.cost < b.cost then .takeLeft else .preferLeft
  else if a.inError && !b.inError then
    if b.cost < a.cost then .takeRight else .preferRight
  else if a.cost < b.cost then
    if maxCostDifference < (b.cost - a.cost) * (1 + a.count) then .takeLeft else .preferLeft
  else if b.cost < a.cost then
    if maxCostDifference < (a.cost - b.cost) * (1 + b.count) then .takeRight else .preferRight
  else if b.weight < a.weight then .preferLeft
  else if a.weight < b.weight then .preferRight
  else .none

namespace Stack

def standing (s : Stack) (v : Nat) : Stack × Standing :=
  let s := s.clampCount v
  let paused := (s.statusOf v).isPaused
  let cost := s.errorCost v
  (s, { cost := if paused then cost + costPerSkippedTree else cost
        count := s.countSinceError v
        weight := (s.top v).weight
        inError := paused || s.stateOf v = 0 })

/-- Whether a version at a given cost would be no better than another one. -/
def betterExists (s : Stack) (v : Nat) (inError : Bool) (cost : Nat) : Stack × Bool :=
  let s := s.clampCount v
  let here := (s.positionOf v).byte
  let mine : Standing := ⟨cost, s.countSinceError v, (s.top v).weight, inError⟩
  (List.range s.versionCount).foldl (fun (s, found) i =>
    if found || i = v || !(s.statusOf i).isActive || (s.positionOf i).byte < here then (s, found)
    else
      let (s, theirs) := s.standing i
      match mine.compare theirs with
      | .takeRight => (s, true)
      | .preferRight => (s, s.canMerge i v)
      | _ => (s, false)) (s, false)

end Stack

namespace Parser

/-- A version at a given cost is no better than another one or than a finished tree. -/
def betterExists (p : Parser) (v : Nat) (inError : Bool) (cost : Nat) : Parser × Bool :=
  match p.finished with
  | some tree =>
    if tree.errorCost ≤ cost then (p, true)
    else
      let (stack, found) := p.stack.betterExists v inError cost
      ({ p with stack }, found)
  | none =>
    let (stack, found) := p.stack.betterExists v inError cost
    ({ p with stack }, found)

end Parser

/-- Whether the second of two trees over the same text is to be taken. -/
def takeSecond (t : ParseTable) (first second : Subtree) : Bool :=
  if second.errorCost < first.errorCost then true
  else if first.errorCost < second.errorCost then false
  else if first.info.weight < second.info.weight then true
  else if second.info.weight < first.info.weight then false
  else if 0 < first.errorCost then true
  else compareTrees t 1000000 [(first, second)] == .gt

namespace Parser

def buildPhrase (t : ParseTable) (symbol shape : Nat) (place : Mark) (first : Slice)
    (others : List Slice) : Subtree × Array Subtree :=
  let (children, extras) := splitTrailingExtras first.trees
  others.foldl (fun (parent, extras) slice =>
    let (children, otherExtras) := splitTrailingExtras slice.trees
    let rival := Subtree.branch t symbol children 0 place
    if takeSecond t parent rival then (Subtree.branch t symbol children shape place, otherExtras)
    else (parent, extras)) (Subtree.branch t symbol children shape place, extras)

def groupSlices (slices : List Slice) : List (Slice × List Slice) :=
  slices.foldr (fun slice groups =>
    match groups with
    | (first, others) :: rest =>
      if first.version = slice.version then (slice, first :: others) :: rest
      else (slice, []) :: groups
    | [] => [(slice, [])]) []

/-- Join a new version into an earlier one other than `v`, if there is one that it fits. -/
def joinEarlier (t : ParseTable) (s : Stack) (v new : Nat) : Stack × Bool :=
  match (List.range new).find? fun j => j ≠ v && s.canMerge j new with
  | some j => (s.merge t j new, true)
  | none => (s, false)

/-- Build a phrase out of the last nodes of a version. Every way down the stack makes a new
version; the first of them is returned, if any is left. -/
def reduce (t : ParseTable) (p : Parser) (v symbol count : Nat) (weight : Int) (shape : Nat) :
    Parser × Option Nat :=
  let initial := p.stack.versionCount
  let place := p.stack.positionOf v
  let (stack, slices) := p.stack.popCount v count
  let halted := (stack.heads.filter fun h => h.status.isHalted).size
  let (stack, _) := (groupSlices slices.toList).foldl (fun (s, removed) (first, others) =>
    let new := first.version - removed
    if maxVersions + spareVersions + halted < new then (s.removeVersion new, removed + 1)
    else
      let (parent, extras) := buildPhrase t symbol shape place first others
      let parent := parent.mapInfo fun i => { i with weight := i.weight + weight }
      let next := t.goto (s.stateOf new) symbol
      let s := s.push t new (some parent) next
      let s := extras.foldl (fun s x => s.push t new (some x) next) s
      let (s, joined) := joinEarlier t s v new
      (s, if joined then removed + 1 else removed)) (stack, 0)
  ({ p with stack }, if initial < stack.versionCount then some initial else none)

end Parser
end TagIndex.Parsing
