import TagIndex.Data.SmallSet
import TagIndex.Lexing.Alphabet

/-! For each token a deterministic automaton over classes of characters. Its states are sets of
patterns: what is left to match after the characters read so far. -/

namespace TagIndex.Lexing
open Grammar

abbrev ClassPattern := Pattern SmallSet

def andThen' (p q : ClassPattern) : ClassPattern :=
  match p with
  | .empty => q
  | _ => .andThen p q

/-- What may be left of a pattern once a character of class `k` is read. -/
def residuals (k : Nat) : ClassPattern → List ClassPattern
  | .empty => []
  | .one set => if set.contains k then [.empty] else []
  | .andThen p q =>
    let left := (residuals k p).map (andThen' · q)
    if p.nullable then left ++ residuals k q else left
  | .either p q => residuals k p ++ residuals k q
  | .many p => (residuals k p).map (andThen' · (.many p))

structure Progress where
  /-- Only blanks were read so far, and more may follow. -/
  before : Bool
  rests : List ClassPattern
deriving BEq, Hashable, Inhabited

structure RecognizerState where
  complete : Bool
  before : Bool
  next : Array Nat
  blank : Array Bool
  rank : Array Int
deriving Inhabited

structure Recognizer where
  states : Array RecognizerState
deriving Inhabited

structure RecognizerBuild where
  progress : Array Progress
  states : Array RecognizerState

/-- Enter the states that are reachable from those known; the fuel bounds their number. -/
def RecognizerBuild.run (size : Nat) (blanks : SmallSet) (lexeme : ClassPattern) (tokenRank : Int) :
    Nat → RecognizerBuild → RecognizerBuild
  | 0, b => b
  | fuel + 1, b =>
    match b.progress[b.states.size]? with
    | none => b
    | some here =>
      let sources := if here.before then lexeme :: here.rests else here.rests
      let step := fun (acc : Array Progress × Array Nat × Array Bool × Array Int) (k : Nat) =>
        let (progress, next, blank, rank) := acc
        let before := here.before && blanks.contains k
        let rests := (sources.flatMap (residuals k)).eraseDups
        let p : Progress := ⟨before, rests⟩
        let r := if rests.isEmpty then 0 else if before then max 0 tokenRank else tokenRank
        if !before && rests.isEmpty then
          (progress, next.push 0, blank.push false, rank.push 0)
        else
          let blank := blank.push (before && rests.isEmpty)
          match progress.findIdx? (· == p) with
          | some i => (progress, next.push i, blank, rank.push r)
          | none => (progress.push p, next.push progress.size, blank, rank.push r)
      let (progress, next, blank, rank) :=
        (List.range size).foldl step (b.progress, #[], #[], #[])
      let complete := sources.any (·.nullable)
      run size blanks lexeme tokenRank fuel
        ⟨progress, b.states.push ⟨complete, here.before, next, blank, rank⟩⟩

def Recognizer.ofLexeme (a : Alphabet) (blanks : SmallSet) (l : Lexeme) : Recognizer :=
  let shape : ClassPattern := l.pattern.map a.classesOf
  let dead : RecognizerState := ⟨false, false, Array.replicate a.size 0,
    Array.replicate a.size false, Array.replicate a.size 0⟩
  let first : Progress := if l.adjacent then ⟨false, [shape]⟩ else ⟨true, []⟩
  let built := RecognizerBuild.run a.size blanks shape l.rank 1000
    ⟨#[⟨false, []⟩, first], #[dead]⟩
  ⟨built.states⟩

end TagIndex.Lexing
