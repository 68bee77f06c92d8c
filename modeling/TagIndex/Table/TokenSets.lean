import TagIndex.Lexing.Overlap
import TagIndex.Table.Canonical

/-! Which tokens are valid together, which of them are keywords, and which ones can be trusted
while the parser skips text. -/

namespace TagIndex.Table
open Grammar Lexing

def State.tokens (s : State) : SmallSet :=
  (List.range s.actions.size).foldl (fun set t =>
    if (s.actions[t]!).isEmpty then set else set.insert t) .empty

structure TokenFacts where
  alphabet : Alphabet
  lexemes : Array Lexeme
  recognizers : Array Recognizer
  overlaps : OverlapTable
  together : Array SmallSet
  keywords : SmallSet
  word : Nat
deriving Inhabited

namespace TokenFacts

def conflicts (f : TokenFacts) (s t : Nat) : Bool := f.overlaps.conflicts (s - 1) (t - 1)

def entry (f : TokenFacts) (s t : Nat) : Overlap := f.overlaps.entry (s - 1) (t - 1)

def symbols (f : TokenFacts) : List Nat := (List.range f.lexemes.size).map (· + 1)

def table (f : TokenFacts) (related : Nat → Nat → Bool) : Array SmallSet :=
  ((0 :: f.symbols).map fun s =>
    if s = 0 then .empty else .ofList (f.symbols.filter fun t => related s t)).toArray

end TokenFacts

def followingClasses (blanks : SmallSet) (recognizers : Array Recognizer) (lexemes : Array Lexeme)
    (following : Array SmallSet) : Array SmallSet :=
  let starting := recognizers.zipIdx.map fun (r, i) =>
    let first := SmallSet.ofList ((List.range 128).filter fun k =>
      ((r.states[1]!).next[k]?).any (· ≠ 0))
    if (lexemes[i]!).adjacent then first else first ∪ blanks
  (Array.range lexemes.size).map fun i =>
    (following[i + 1]!).toList.foldl (fun set t =>
      if t = 0 then set else set ∪ starting[t - 1]!) .empty

/-- The keywords: tokens whose texts are all words and which are preferred to the word token. A
word in place of a keyword may not compete differently with any token that is valid beside the
keyword in a state without words. -/
def findKeywords (f : TokenFacts) (stateTokens : Array SmallSet) : SmallSet :=
  let w := f.word
  let candidates := f.symbols.filter fun s => (f.entry s w).wins && !(f.entry s w).differs
  let unshadowed := candidates.filter fun s =>
    candidates.all fun t => t == s || !(f.entry t s).wins
  let besideWithoutWord (s : Nat) : SmallSet := stateTokens.foldl (fun set tokens =>
    if tokens.contains s && !tokens.contains w then set ∪ tokens else set) .empty
  .ofList (unshadowed.filter fun s =>
    let beside := besideWithoutWord s
    f.symbols.all fun t => candidates.contains t || !beside.contains t ||
      f.entry s t == f.entry w t)

def TokenFacts.collect (g : Plain) (states : Array State) : TokenFacts :=
  let lexemes := g.tokens.map (·.lexeme)
  let alphabet := Alphabet.ofSets (g.blanks :: lexemes.toList.flatMap (·.pattern.sets))
  let blanks := alphabet.classesOf g.blanks
  let recognizers := lexemes.map (Recognizer.ofLexeme alphabet blanks)
  let following := followingClasses blanks recognizers lexemes (followingTokens g)
  let overlaps := OverlapTable.build lexemes recognizers following
  let stateTokens := states.map (·.tokens)
  let together := stateTokens.foldl (fun out tokens =>
    tokens.toList.foldl (fun out t => out.modify t (· ∪ tokens)) out)
    (Array.replicate g.firstPhrase SmallSet.empty)
  let facts : TokenFacts :=
    { alphabet, lexemes, recognizers, overlaps, together, keywords := .empty, word := g.word }
  { facts with keywords := findKeywords facts stateTokens }

/-- The tokens that are looked for while text is skipped: all but those that could be taken for a
part of a token that has no rivals. -/
def recoveryTokens (f : TokenFacts) : SmallSet :=
  let apart (s t : Nat) : Bool := s != t && !(f.together[s]!).contains t
  let safe := f.symbols.filter fun s =>
    !(f.symbols.any fun t => apart s t && f.overlaps.differsInLength (s - 1) (t - 1))
  .ofList (f.symbols.filter fun s =>
    safe.contains s || f.keywords.contains s || s == f.word ||
      !(safe.any fun t => !(f.together[s]!).contains t && f.conflicts s t))

/-- Give the skipping state its actions: every token looked for, and the end, may end the
skipping. -/
def addRecovery (f : TokenFacts) (states : Array State) : Array State :=
  let tokens := recoveryTokens f
  states.modify 0 fun s => { s with
    actions := s.actions.mapIdx fun t as =>
      if as.isEmpty && (t = 0 || tokens.contains t) then [.recover] else as }

end TagIndex.Table
