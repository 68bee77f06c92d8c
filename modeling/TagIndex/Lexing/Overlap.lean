import TagIndex.Data.SmallSet
import TagIndex.Lexing.Recognizer

/-! How two tokens compete for the same text. -/

namespace TagIndex.Lexing
open Grammar

structure Overlap where
  /-- A whole token of the other kind can be read on into one of this kind. -/
  continues : Bool := false
  /-- It can be read on with a character that may also follow the other token. -/
  continuesFollow : Bool := false
  endsInBlanks : Bool := false
  wins : Bool := false
  cutsOff : Bool := false
  differs : Bool := false
deriving BEq, Inhabited

/-- A text can be found as a token of this kind where another mode finds one of the other kind. -/
def Overlap.overlaps (o : Overlap) : Bool :=
  o.endsInBlanks || o.cutsOff || o.wins || o.continues

/-- The rank and specificity by which tokens are preferred; of equals, the first. -/
def preferToken (lexemes : Array Lexeme) (i j : Nat) : Bool :=
  let a := lexemes[i]!
  let b := lexemes[j]!
  if a.rank ≠ b.rank then b.rank < a.rank
  else if a.specificity ≠ b.specificity then b.specificity < a.specificity
  else i < j

def preferReading (rank : Int) (blank : Bool) (wholeRank : Int) (amongBlanks : Bool)
    (leadsToWhole : Bool) : Bool :=
  if rank < wholeRank then false
  else if rank = wholeRank then !blank && !(amongBlanks && !leadsToWhole)
  else true

structure Comparison where
  pending : List (Nat × Nat)
  seen : Array Bool
  first : Overlap
  second : Overlap

/-- Look at the pending pairs of states of the automata of tokens `j < i`; `first` speaks about
`i`. The fuel bounds the number of pairs. -/
def Comparison.run (lexemes : Array Lexeme) (recognizers : Array Recognizer)
    (following : Array SmallSet) (i j : Nat) : Nat → Comparison → Comparison
  | 0, c => c
  | fuel + 1, c =>
    match c.pending with
    | [] => c
    | (p, q) :: pending =>
      let c := { c with pending }
      if q = 0 then run lexemes recognizers following i j fuel
        { c with first := { c.first with differs := true } }
      else if p = 0 then run lexemes recognizers following i j fuel
        { c with second := { c.second with differs := true } }
      else
        let a := (recognizers[i]!).states[p]!
        let b := (recognizers[j]!).states[q]!
        let amongBlanks := a.before || b.before
        let c := if amongBlanks && a.complete then
            { c with first := { c.first with endsInBlanks := true } } else c
        let c := if amongBlanks && b.complete then
            { c with second := { c.second with endsInBlanks := true } } else c
        let whole := if a.complete && b.complete then
            some (if preferToken lexemes j i then j else i)
          else if b.complete then some j
          else if a.complete then some i
          else none
        let c := if a.complete && b.complete then
            (if whole == some j then { c with second := { c.second with wins := true } }
              else { c with first := { c.first with wins := true } })
          else c
        let width := (recognizers[j]!).states.size
        let c := (List.range a.next.size).foldl (fun c k =>
          let p' := a.next[k]!
          let q' := b.next[k]!
          if p' = 0 && q' = 0 then c else
          let push (c : Comparison) : Comparison :=
            if c.seen[p' * width + q']! then c
            else { c with pending := (p', q') :: c.pending,
                          seen := c.seen.set! (p' * width + q') true }
          let rank := if p' = 0 then b.rank[k]! else if q' = 0 then a.rank[k]!
            else max a.rank[k]! b.rank[k]!
          let blank := (p' = 0 || a.blank[k]!) && (q' = 0 || b.blank[k]!)
          match whole with
          | none => push c
          | some w =>
            if (w = i && p' ≠ 0) || (w = j && q' ≠ 0) then push c
            else if preferReading rank blank (lexemes[w]!).rank amongBlanks false then
              let follows := (following[w]!).contains k
              let mark (o : Overlap) : Overlap := { o with
                continues := true, continuesFollow := o.continuesFollow || follows }
              push (if w = i then { c with second := mark c.second }
                else { c with first := mark c.first })
            else if w = i then { c with first := { c.first with cutsOff := true } }
            else { c with second := { c.second with cutsOff := true } }) c
        run lexemes recognizers following i j fuel c

structure OverlapTable where
  size : Nat
  entries : Array Overlap
deriving Inhabited

namespace OverlapTable

def entry (t : OverlapTable) (i j : Nat) : Overlap := t.entries[i * t.size + j]!

def build (lexemes : Array Lexeme) (recognizers : Array Recognizer)
    (following : Array SmallSet) : OverlapTable :=
  let n := lexemes.size
  let entries := (List.range n).foldl (fun entries i =>
    (List.range i).foldl (fun entries j =>
      let width := (recognizers[j]!).states.size
      let start : Comparison := ⟨[(1, 1)],
        Array.replicate ((recognizers[i]!).states.size * width) false, {}, {}⟩
      let c := Comparison.run lexemes recognizers following i j 100000 start
      (entries.set! (i * n + j) c.first).set! (j * n + i) c.second) entries)
    (Array.replicate (n * n) ({} : Overlap))
  ⟨n, entries⟩

/-- A text of token `j` cannot be trusted where token `i` is valid too. -/
def conflicts (t : OverlapTable) (i j : Nat) : Bool :=
  let e := t.entry i j
  e.continuesFollow || e.endsInBlanks || e.wins

/-- One of the tokens can match less or more of a text than the other. -/
def differsInLength (t : OverlapTable) (i j : Nat) : Bool :=
  let e := t.entry i j
  (e.continuesFollow || e.endsInBlanks) && !(t.entry j i).endsInBlanks

end OverlapTable
end TagIndex.Lexing
