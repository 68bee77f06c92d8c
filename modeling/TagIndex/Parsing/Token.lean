import TagIndex.Parsing.Subtree

/-! Finding the next token of a text. -/

namespace TagIndex.Parsing
open Table Lexing

structure Scan where
  found : Option (Nat × Mark)
  start : Mark
  reached : Mark

/-- Read on from a state of the scanner. The fuel bounds the characters read, with two steps more
for the end of the text. -/
def scanFrom (sc : Scanner) (text : Array Char) : Nat → Nat → Scan → Scan
  | 0, _, s => s
  | fuel + 1, state, s =>
    let here := sc.states[state]!
    let s := match here.accepts with
      | some symbol => { s with found := some (symbol, s.reached) }
      | none => s
    match text[s.reached.index]? with
    | some c =>
      let k := sc.alphabet.classOf c
      match here.next[k]! with
      | 0 => s
      | n =>
        let reached := s.reached.advance c
        scanFrom sc text fuel n
          { s with reached, start := if here.skips.contains k then reached else s.start }
    | none =>
      match here.atEnd with
      | 0 => s
      | n => scanFrom sc text fuel n s

def skipByteOrderMark (text : Array Char) (m : Mark) : Mark :=
  if m.index = 0 then
    match text[0]? with
    | some c => if c = '\uFEFF' then m.advance c else m
    | none => m
  else m

def scan (sc : Scanner) (text : Array Char) (mode : Nat) (before : Mark) : Scan :=
  let m := skipByteOrderMark text before
  scanFrom sc text (text.size - m.index + 2) sc.starts[mode]! ⟨none, m, m⟩

/-- Skip text until one of the tokens of a mode follows, or the end of the text. `stop` is where
the skipped text ends so far, `reached` is how far the last scan looked. -/
def skipText (sc : Scanner) (text : Array Char) (mode : Nat) : Nat → Mark → Mark → Mark
  | 0, stop, _ => stop
  | fuel + 1, stop, reached =>
    if reached.byte = stop.byte then
      match text[reached.index]? with
      | none => stop
      | some c =>
        let stop := reached.advance c
        let next := scan sc text mode stop
        if next.found.isSome then stop else skipText sc text mode fuel stop next.reached
    else
      let stop := reached
      let next := scan sc text mode stop
      if next.found.isSome then stop else skipText sc text mode fuel stop next.reached

/-- Tell keywords from other words, and make the token a leaf. -/
def finishToken (t : ParseTable) (text : Array Char) (state : Nat) (before start stop : Mark)
    (symbol : Nat) : Subtree :=
  if symbol = t.word then
    match (scan t.keywordScanner text 0 start).found with
    | some (k, wordStop) =>
      if wordStop.byte = stop.byte && (!(t.actions state k).isEmpty || t.isReserved state k) then
        .leaf k before start stop state true
      else .leaf symbol before start stop state true
    | none => .leaf symbol before start stop state false
  else .leaf symbol before start stop state false

/-- The next token for a state. If none of the tokens that the state knows is found, any token
will do; if there is none, text is skipped. -/
def nextToken (t : ParseTable) (text : Array Char) (state : Nat) (before : Mark) : Subtree :=
  let first := scan t.scanner text t.modes[state]! before
  match first.found with
  | some (symbol, stop) => finishToken t text state before first.start stop symbol
  | none =>
    let mode := t.modes[0]!
    let second := if state = 0 then first else scan t.scanner text mode before
    match second.found with
    | some (symbol, stop) => finishToken t text state before second.start stop symbol
    | none =>
      let stop := skipText t.scanner text mode (2 * (text.size - before.index) + 2)
        second.start second.reached
      .leaf errorSymbol before second.start stop state false

end TagIndex.Parsing
