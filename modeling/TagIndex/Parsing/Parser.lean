import TagIndex.Parsing.Recovery

/-! Reading a whole text. Where the table keeps several actions, the stack splits into versions;
versions that meet again are joined, and the cheapest reading of the text wins. -/

namespace TagIndex.Parsing
open Table

namespace Parser

def reusableToken (t : ParseTable) (p : Parser) (state : Nat) (position : Mark) :
    Option Subtree :=
  match p.lastToken with
  | none => none
  | some token =>
    let i := token.info
    if i.before.byte ≠ position.byte || i.symbol = errorSymbol then none
    else
      let wordsAt (s : Nat) : Bool := !(t.actions s t.word).isEmpty
      let reservedAt (s : Nat) : SmallSet :=
        if wordsAt s then t.reserved \ (t.states[s]!).tokens else .empty
      let sameMode := t.modes[state]! == t.modes[i.foundIn]! &&
        reservedAt state == reservedAt i.foundIn
      if !(t.actions state i.symbol).isEmpty && sameMode &&
          (i.symbol ≠ t.word || (!i.keyword && i.foundIn = state)) then some token
      else if token.byteSize = 0 && i.symbol ≠ 0 then none
      else if (t.reusable[state]!).contains i.symbol then some token
      else none

/-- What came of the actions of a state: the version went on, or phrases were closed and the
token is still to be used. -/
inductive Progressed where
  | done (p : Parser)
  | reduced (p : Parser) (new : Option Nat)
  | stuck (p : Parser)

def perform (t : ParseTable) (v state : Nat) (lookahead : Subtree) :
    List Action → Bool → Option Nat → Parser → Progressed
  | [], reduced, new, p => if reduced then .reduced p new else .stuck p
  | a :: rest, reduced, new, p =>
    match a with
    | .shift _ true => perform t v state lookahead rest reduced new p
    | .shift next false =>
      .done { p with stack := p.stack.push t v (some (lookahead.setExtra false)) next }
    | .shiftExtra =>
      .done { p with stack := p.stack.push t v (some (lookahead.setExtra true)) state }
    | .reduce symbol count weight shape =>
      let (p, made) := p.reduce t v symbol count weight shape
      perform t v state lookahead rest true (made <|> new) p
    | .accept => .done (p.accept t v lookahead)
    | .recover => .done (p.recover t v lookahead)

/-- Close phrases of a version until the token is used or cannot be. The fuel bounds the number of
phrases closed. -/
def useToken (t : ParseTable) (v : Nat) : Nat → Subtree → Parser → Parser
  | 0, _, p => { p with stack := p.stack.halt v }
  | fuel + 1, lookahead, p =>
    let state := p.stack.stateOf v
    match perform t v state lookahead (t.actions state lookahead.symbol) false none p with
    | .done p => p
    | .reduced p (some new) =>
      useToken t v fuel lookahead { p with stack := p.stack.renumber new v }
    | .reduced p none => { p with stack := p.stack.halt v }
    | .stuck p =>
      -- A keyword that is not valid here may be an ordinary word.
      let symbol := lookahead.symbol
      if lookahead.info.keyword && symbol ≠ t.word && !t.isReserved state symbol &&
          !(t.actions state t.word).isEmpty then
        useToken t v fuel (lookahead.mapInfo fun i => { i with symbol := t.word }) p
      else if state = 0 then p.recover t v lookahead
      else { p with stack := p.stack.pause v lookahead }

def advance (t : ParseTable) (text : Array Char) (p : Parser) (v : Nat) : Parser :=
  let state := p.stack.stateOf v
  let position := p.stack.positionOf v
  match p.reusableToken t state position with
  | some token => useToken t v 100000 token p
  | none =>
    let token := nextToken t text state position
    useToken t v 100000 token { p with lastToken := some token }

/-- Take a version as far as the versions before it; it stops when it has passed `last`. The fuel
bounds the number of tokens. -/
def advanceVersion (t : ParseTable) (text : Array Char) (v : Nat) :
    Nat → Nat → Parser → Parser × Nat
  | 0, last, p => (p, last)
  | fuel + 1, last, p =>
    if !(p.stack.statusOf v).isActive then (p, last)
    else
      let p := p.advance t text v
      let position := (p.stack.positionOf v).byte
      if last < position || (0 < v && position = last) then (p, position)
      else advanceVersion t text v fuel last p

def advanceAll (t : ParseTable) (text : Array Char) : Nat → Nat → Nat → Parser → Parser × Nat
  | 0, _, last, p => (p, last)
  | fuel + 1, v, last, p =>
    if p.stack.versionCount ≤ v then (p, last)
    else
      let (p, last) := advanceVersion t text v 1000 last p
      advanceAll t text fuel (v + 1) last p

/-- Compare version `i` with those before it, from `j` on, dropping, joining and reordering
versions. Returns the place to go on from. The fuel bounds the number of comparisons. -/
def compareFrom (t : ParseTable) (standing : Standing) :
    Nat → Nat → Nat → Stack → Stack × Nat
  | 0, i, _, s => (s, i + 1)
  | fuel + 1, i, j, s =>
    if i ≤ j then (s, i + 1)
    else
      let (s, earlier) := s.standing j
      match earlier.compare standing with
      | .takeLeft => (s.removeVersion i, i)
      | .preferLeft | .none =>
        if s.canMerge j i then (s.merge t j i, i)
        else compareFrom t standing fuel i (j + 1) s
      | .preferRight =>
        if s.canMerge j i then (s.merge t j i, i)
        else compareFrom t standing fuel i (j + 1) (s.swapVersions i j)
      | .takeRight => compareFrom t standing fuel (i - 1) j (s.removeVersion j)

/-- Put the versions in order, best first, and drop those that are clearly worse than another.
Returns the least cost of a version that is not in error, if there is one. -/
def sortVersions (t : ParseTable) : Nat → Nat → Option Nat → Stack → Stack × Option Nat
  | 0, _, least, s => (s, least)
  | fuel + 1, i, least, s =>
    if s.versionCount ≤ i then (s, least)
    else if (s.statusOf i).isHalted then sortVersions t fuel i least (s.removeVersion i)
    else
      let (s, standing) := s.standing i
      let least :=
        if standing.inError then least
        else match least with
          | some c => some (min c standing.cost)
          | none => some standing.cost
      let (s, i) := compareFrom t standing 1000 i 0 s
      sortVersions t fuel i least s

def resumeBest (t : ParseTable) :
    Nat → Nat → Nat → Bool → Option Nat → Parser → Parser × Option Nat
  | 0, _, _, _, least, p => (p, least)
  | fuel + 1, i, n, running, least, p =>
    if n ≤ i then (p, least)
    else match p.stack.statusOf i with
      | .paused lookahead =>
        if !running && p.finishedCount < maxVersions then
          let least := some (p.stack.errorCost i)
          let p := { p with stack := p.stack.resume i }
          resumeBest t fuel (i + 1) n true least (p.handleError t i lookahead)
        else
          resumeBest t fuel i (n - 1) running least
            { p with stack := p.stack.removeVersion i }
      | _ => resumeBest t fuel (i + 1) n true least p

/-- Drop and join versions after all have advanced. Returns the least cost of those that go on. -/
def condense (t : ParseTable) (p : Parser) : Parser × Option Nat :=
  let (stack, least) := sortVersions t 1000 0 none p.stack
  let stack := { stack with heads := stack.heads.extract 0 maxVersions }
  let n := stack.versionCount
  resumeBest t (n + 1) 0 n false least { p with stack }

/-- Read until a finished tree is better than all versions, or none is left. The fuel bounds the
number of rounds. -/
def run (t : ParseTable) (text : Array Char) : Nat → Nat → Parser → Parser
  | 0, _, p => p
  | fuel + 1, last, p =>
    let (p, last) := p.advanceAll t text 64 0 last
    if p.stack.versionCount = 0 then p
    else
      let (p, least) := p.condense t
      let better : Bool := match p.finished, least with
        | some tree, some cost => tree.errorCost < cost
        | some _, none => true
        | none, _ => false
      if better then p else run t text fuel last p

end Parser

def parseText (t : ParseTable) (text : Array Char) : Subtree :=
  let p : Parser := ⟨.initial, none, none, 0⟩
  match (p.run t text (16 * text.size + 256) 0).finished with
  | some tree => tree
  | none => .errorNode t #[] false .first

end TagIndex.Parsing
