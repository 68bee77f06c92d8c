import Std.Data.HashMap
import TagIndex.Data.SmallSet
import TagIndex.Grammar.Pattern

/-! Classes of characters that the tokens of a language do not tell apart. -/

namespace TagIndex.Lexing
open Text Grammar

structure Alphabet where
  /-- Ascending first code points of the segments; the first is zero. -/
  starts : Array Nat
  classes : Array Nat
  ascii : Array Nat
  members : Array CharSet
deriving Inhabited

namespace Alphabet

def size (a : Alphabet) : Nat := a.members.size

/-- The last segment, between `lo` and `hi`, that starts at or before `code`. -/
def segmentOf (starts : Array Nat) (code : Nat) (lo hi : Nat) : Nat :=
  if lo + 1 < hi then
    let mid := (lo + hi) / 2
    if starts[mid]! ≤ code then segmentOf starts code mid hi else segmentOf starts code lo mid
  else lo
termination_by hi - lo

def classOf (a : Alphabet) (c : Char) : Nat :=
  let code := c.toNat
  if code < a.ascii.size then a.ascii[code]!
  else a.classes[segmentOf a.starts code 0 a.starts.size]!

/-- The coarsest partition in which every given set is a union of classes. -/
def ofSets (sets : List CharSet) : Alphabet :=
  let sets := sets.eraseDups.toArray
  let bounds := sets.foldl (fun bs s => s.ranges.foldl (fun bs (lo, hi) =>
    (bs.push lo).push (hi + 1)) bs) #[0]
  let starts := (bounds.qsort (· < ·)).foldl (fun out b =>
    if out.back? == some b || b > CharSet.maxCode then out else out.push b) #[]
  -- A segment belongs to the class of the sets that contain its first code point.
  let (classes, signatures, _) := starts.foldl (fun (classes, count, known) start =>
    let signature := sets.toList.map (·.contains start)
    match known[signature]? with
    | some k => (classes.push k, count, known)
    | none => (classes.push count, count + 1, known.insert signature count))
    ((#[], 0, ∅) : Array Nat × Nat × Std.HashMap (List Bool) Nat)
  let members := (Array.range signatures).map fun k =>
    CharSet.ofRanges ((List.range starts.size).filterMap fun i =>
      if classes[i]! = k then
        some (starts[i]!, (starts[i + 1]?.getD (CharSet.maxCode + 1)) - 1)
      else none)
  let ascii := (Array.range 128).map fun code =>
    classes[segmentOf starts code 0 starts.size]!
  { starts, classes, ascii, members }

def classesOf (a : Alphabet) (s : CharSet) : SmallSet :=
  .ofList ((List.range a.size).filter fun k =>
    match (a.members[k]!).ranges with
    | (lo, _) :: _ => s.contains lo
    | [] => false)

end Alphabet
end TagIndex.Lexing
