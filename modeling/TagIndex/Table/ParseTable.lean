import TagIndex.Lexing.Scanner
import TagIndex.Table.Merge

/-! The finished table: what the parser looks up while it reads a text. -/

namespace TagIndex.Table
open Grammar Lexing

structure ParseTable where
  appearances : Array Appearance
  firstPhrase : Nat
  states : Array State
  modes : Array Nat
  reusable : Array SmallSet
  shapes : Array Shape
  scanner : Scanner
  keywordScanner : Scanner
  word : Nat
  reserved : SmallSet
  tokenOrder : List Nat
deriving Inhabited

structure ModeBuild where
  sets : Array SmallSet
  modes : Array Nat

/-- Look for the tokens of a state together with those of an earlier state wherever neither are
mistaken for the others. -/
def ModeBuild.add (rivals : Array SmallSet) (b : ModeBuild) (tokens : SmallSet) : ModeBuild :=
  let fits (set : SmallSet) : Bool := !clashes rivals tokens set && !clashes rivals set tokens
  match b.sets.findIdx? fits with
  | some i => ⟨b.sets.modify i (· ∪ tokens), b.modes.push i⟩
  | none => ⟨b.sets.push tokens, b.modes.push b.sets.size⟩

def ParseTable.build (g : Plain) : ParseTable :=
  let (canonical, shapes) := canonicalStates g
  let facts := TokenFacts.collect g canonical
  let merged := mergeStates facts (addRecovery facts canonical)
  let states := arrangeStates (skipRenames g merged)
  let rivals := facts.table fun s t =>
    facts.conflicts s t || (facts.entry s t).cutsOff ||
      (!(facts.together[s]!).contains t &&
        ((facts.entry s t).overlaps || (facts.entry t s).overlaps))
  -- Keywords are found as words.
  let sought (s : State) : SmallSet :=
    let tokens := s.tokens
    if tokens.meets facts.keywords then (tokens \ facts.keywords).insert g.word else tokens
  let modes := states.foldl (fun b s => b.add rivals (sought s)) (⟨#[], #[]⟩ : ModeBuild)
  let overlappedBy := facts.table fun s t => (facts.entry t s).overlaps
  let reusable := states.map fun s =>
    let tokens := s.tokens
    SmallSet.ofList (tokens.toList.filter fun t =>
      t = 0 || !((overlappedBy[t]!).meets (tokens \ SmallSet.ofList [0])))
  let lexicon : Lexicon := ⟨facts.alphabet, facts.lexemes, facts.recognizers⟩
  { appearances := (Array.range g.symbolCount).map g.appearance
    firstPhrase := g.firstPhrase
    states
    modes := modes.modes
    reusable
    shapes
    scanner := Scanner.build lexicon modes.sets
    keywordScanner := Scanner.build lexicon #[facts.keywords]
    word := g.word
    reserved := .ofList g.reserved
    tokenOrder := g.word :: facts.symbols.filter (· ≠ g.word) }

namespace ParseTable

def actions (t : ParseTable) (state token : Nat) : List Action :=
  ((t.states[state]!).actions[token]?).getD []

def goto (t : ParseTable) (state phrase : Nat) : Nat :=
  ((t.states[state]!).gotos[phrase - t.firstPhrase]?).getD 0

/-- A keyword that may not be read as a word where words are expected. -/
def isReserved (t : ParseTable) (state token : Nat) : Bool :=
  t.reserved.contains token && !(t.actions state t.word).isEmpty

end ParseTable
end TagIndex.Table
