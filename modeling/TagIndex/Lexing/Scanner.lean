import Std.Data.HashMap
import TagIndex.Lexing.Overlap

/-! The automata that find the next token of a text, one for each set of tokens looked for. -/

namespace TagIndex.Lexing
open Text Grammar

structure ScannerState where
  accepts : Option Nat
  next : Array Nat
  skips : SmallSet
  atEnd : Nat
deriving Inhabited

/-- Where a scan stands: how far the text has got into each token that is still possible, and
whether the end of the text is looked for. -/
structure ScanProgress where
  members : Array (Nat × Nat)
  endLooked : Bool
deriving BEq, Hashable, Inhabited

structure Lexicon where
  alphabet : Alphabet
  lexemes : Array Lexeme
  recognizers : Array Recognizer

structure Reading where
  members : Array (Nat × Nat)
  blank : Bool
  rank : Int
deriving BEq, Inhabited

namespace Lexicon

def whole? (lx : Lexicon) (members : Array (Nat × Nat)) : Option Nat :=
  members.foldl (fun whole (t, s) =>
    if ((lx.recognizers[t]!).states[s]!).complete then
      match whole with
      | some w => if preferToken lx.lexemes w t then whole else some t
      | none => some t
    else whole) none

def read (lx : Lexicon) (members : Array (Nat × Nat)) (k : Nat) : Option Reading :=
  let r := members.foldl (fun r (t, s) =>
    let state := (lx.recognizers[t]!).states[s]!
    let n := state.next[k]!
    if n = 0 then r
    else
      let rank := state.rank[k]!
      { members := r.members.push (t, n)
        blank := r.blank && state.blank[k]!
        rank := if r.members.isEmpty then rank else max r.rank rank })
    (⟨#[], true, 0⟩ : Reading)
  if r.members.isEmpty then none else some r

/-- How a character of class `k` is read where a token may already be whole. -/
def readBeyond (lx : Lexicon) (members : Array (Nat × Nat)) (whole : Option Nat) (k : Nat) :
    Option Reading :=
  match lx.read members k, whole with
  | some r, some w =>
    let amongBlanks := members.any fun (t, s) => ((lx.recognizers[t]!).states[s]!).before
    if preferReading r.rank r.blank (lx.lexemes[w]!).rank amongBlanks
        (r.members.any (·.1 == w)) then some r else none
  | r, _ => r

end Lexicon

/-- The order in which ways to read on are tried: fewer characters first. -/
def compareCharSets (a b : CharSet) : Ordering :=
  (compare a.size b.size).then <|
    (a.ranges.zip b.ranges).foldl (fun o ((alo, ahi), (blo, bhi)) =>
      o.then ((compare (ahi - alo) (bhi - blo)).then (compare alo blo))) .eq

/-- Single characters, or pairs of neighbours, that a look-up of the character finds. -/
def isSimple (s : CharSet) : Bool := s.ranges.all fun (lo, hi) => hi ≤ lo + 1 && hi < 0x10000

/-- Where eight or more single characters are told apart by look-up, the end of the text is found
there as well, as the null character. -/
def looksUpEnd (a : Alphabet) (readings : Array (Option Reading)) : Bool :=
  let grouped := readings.zipIdx.foldl (fun groups (r, k) =>
    match r with
    | none => groups
    | some r =>
      match groups.findIdx? (fun g : Reading × List (Nat × Nat) => g.1 == r) with
      | some i => groups.modify i fun (r, ranges) => (r, ranges ++ (a.members[k]!).ranges)
      | none => groups.push (r, (a.members[k]!).ranges)) #[]
  let sets := grouped.map fun (r, ranges) => (r, CharSet.ofRanges ranges)
  let sorted := sets.qsort fun x y => compareCharSets x.2 y.2 == .lt
  let leading := sorted.toList.takeWhile fun (r, s) => !r.blank && isSimple s
  8 ≤ (leading.flatMap fun (_, s) => s.ranges).length &&
    leading.any fun (_, s) => s.contains 0

structure ScannerBuild where
  progress : Array ScanProgress
  numbers : Std.HashMap ScanProgress Nat
  states : Array ScannerState

namespace ScannerBuild

def number (b : ScannerBuild) (p : ScanProgress) : ScannerBuild × Nat :=
  match b.numbers[p]? with
  | some n => (b, n)
  | none =>
    let n := b.progress.size
    ({ b with progress := b.progress.push p, numbers := b.numbers.insert p n }, n)

/-- Finish the next state. Tokens are given as symbols, one above their place in the lexicon. -/
def finishNext (lx : Lexicon) (b : ScannerBuild) (p : ScanProgress) : ScannerBuild :=
  let whole := lx.whole? p.members
  let readings := (Array.range lx.alphabet.size).map (lx.readBeyond p.members whole)
  let (b, next, skips) := readings.foldl (fun (b, next, skips) r =>
    match r with
    | none => (b, next.push 0, skips)
    | some r =>
      let (b, n) := number b ⟨r.members, p.endLooked && r.blank⟩
      (b, next.push n, if r.blank then SmallSet.insert skips (Array.size next) else skips))
    (b, #[], SmallSet.empty)
  let null := lx.alphabet.classOf '\x00'
  let (b, atEnd) :=
    if p.endLooked then number b ⟨#[], false⟩
    else if next[null]! ≠ 0 && looksUpEnd lx.alphabet readings then (b, next[null]!)
    else (b, 0)
  let accepts := if p.members.isEmpty then some 0 else whole.map (· + 1)
  { b with states := b.states.push ⟨accepts, next, skips, atEnd⟩ }

/-- Finish states until none is left; the fuel bounds their number. -/
def run (lx : Lexicon) : Nat → ScannerBuild → ScannerBuild
  | 0, b => b
  | fuel + 1, b =>
    match b.progress[b.states.size]? with
    | none => b
    | some p => run lx fuel (b.finishNext lx p)

end ScannerBuild

structure Scanner where
  alphabet : Alphabet
  states : Array ScannerState
  starts : Array Nat
deriving Inhabited

/-- The scanner for the given sets of symbols; symbol 0 is the end of the text. -/
def Scanner.build (lx : Lexicon) (sets : Array SmallSet) : Scanner :=
  let dead : ScanProgress := ⟨#[(lx.lexemes.size, 0)], false⟩
  let empty : ScannerBuild :=
    ⟨#[dead], (∅ : Std.HashMap ScanProgress Nat).insert dead 0,
      #[⟨none, Array.replicate lx.alphabet.size 0, .empty, 0⟩]⟩
  let (b, starts) := sets.foldl (fun (b, starts) set =>
    let members := (set.toList.filter (· ≠ 0)).map fun t => (t - 1, 1)
    let (b, n) := ScannerBuild.number b ⟨members.toArray, set.contains 0⟩
    (b, starts.push n)) (empty, #[])
  ⟨lx.alphabet, (b.run lx 1000000).states, starts⟩

end TagIndex.Lexing
