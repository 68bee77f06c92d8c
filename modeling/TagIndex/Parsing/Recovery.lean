import TagIndex.Parsing.Version

/-! Going on after an error: put in a missing token, go back to a state that can use the next
token, or skip it. -/

namespace TagIndex.Parsing
open Table

namespace Parser

/-- The phrases that can be closed in a state before one of the given tokens, and whether such a
token can be read. -/
def closings (t : ParseTable) (state : Nat) (tokens : List Nat) : List Action × Bool :=
  tokens.foldl (fun acc token =>
    (t.actions state token).foldl (fun (closings, reads) a =>
      match a with
      | .shift _ again => (closings, reads || !again)
      | .recover => (closings, true)
      | .reduce symbol count _ _ =>
        let known := closings.any fun
          | .reduce symbol' count' _ _ => symbol' == symbol && count' == count
          | _ => false
        if count = 0 || known then (closings, reads) else (closings ++ [a], reads)
      | _ => (closings, reads)) acc) ([], false)

def partner? (s : Stack) (first v : Nat) : Option Nat :=
  (List.range v).find? fun j => first ≤ j && s.canMerge j v

/-- Close every phrase that can be closed before a token, or before any token if `lookahead` is
the end of the text. Tells whether some version can then read the token. The fuel bounds the
number of versions looked at. -/
def closeAll (t : ParseTable) (starting lookahead : Nat) (initial : Nat) :
    Nat → Nat → Nat → Bool → Parser → Parser × Bool
  | 0, _, _, canRead, p => (p, canRead)
  | fuel + 1, round, v, canRead, p =>
    let count := p.stack.versionCount
    if count ≤ v then (p, canRead)
    else match partner? p.stack initial v with
      | some j => closeAll t starting lookahead initial fuel (round + 1) v canRead
          { p with stack := p.stack.merge t j v }
      | none =>
        let tokens := if lookahead = 0 then t.tokenOrder else [lookahead]
        let (actions, reads) := closings t (p.stack.stateOf v) tokens
        let (p, reduced) := actions.foldl (fun (p, _) a =>
          match a with
          | .reduce symbol n weight shape => p.reduce t v symbol n weight shape
          | _ => (p, none)) (p, none)
        let next := if v = starting then count else v + 1
        if reads then closeAll t starting lookahead initial fuel (round + 1) next true p
        else match reduced with
          | some r =>
            if round < maxVersions then
              closeAll t starting lookahead initial fuel (round + 1) v canRead
                { p with stack := p.stack.renumber r v }
            else if lookahead ≠ 0 then
              closeAll t starting lookahead initial fuel (round + 1) next canRead
                { p with stack := p.stack.removeVersion v }
            else closeAll t starting lookahead initial fuel (round + 1) next canRead p
          | none =>
            if lookahead ≠ 0 then
              closeAll t starting lookahead initial fuel (round + 1) next canRead
                { p with stack := p.stack.removeVersion v }
            else closeAll t starting lookahead initial fuel (round + 1) next canRead p

def closeBefore (t : ParseTable) (p : Parser) (v lookahead : Nat) : Parser × Bool :=
  closeAll t v lookahead p.stack.versionCount 1000 0 v false p

def accept (t : ParseTable) (p : Parser) (v : Nat) (lookahead : Subtree) : Parser :=
  let stack := p.stack.push t v (some lookahead) 1
  let (stack, slices) := stack.popAll v
  let p := slices.foldl (fun p slice =>
    let trees := slice.trees
    let last := (List.range trees.size).foldl (fun found i =>
      if (trees[i]!).extra then found else some i) none
    match last with
    | none => p
    | some i =>
      let tree := trees[i]!
      let children := trees.extract 0 i ++ tree.children ++ trees.extract (i + 1) trees.size
      let root := Subtree.branch t tree.symbol children tree.info.shape .first
      let finished := match p.finished with
        | some old => if takeSecond t old root then root else old
        | none => root
      { p with finished := some finished, finishedCount := p.finishedCount + 1 })
    { p with stack }
  let stack := match slices[0]? with
    | some slice => p.stack.removeVersion slice.version
    | none => p.stack
  { p with stack := stack.halt v }

/-- Take a version back to a state that it was in, and make the text since then an error. -/
def backTo (t : ParseTable) (p : Parser) (v depth goal : Nat) : Parser × Bool :=
  let (stack, slices) := p.stack.popCount v depth
  let (stack, previous) := slices.foldl (fun (s, previous) slice =>
    if previous == some slice.version then (s, previous)
    else if s.stateOf slice.version ≠ goal then (s.halt slice.version, previous)
    else
      let place := s.positionOf slice.version
      let (s, errors) := s.popError slice.version
      let trees := match errors[0]? with
        | some e => e.children ++ slice.trees
        | none => slice.trees
      let (trees, extras) := splitTrailingExtras trees
      let s := if trees.isEmpty then s
        else s.push t slice.version (some (.errorNode t trees true place)) goal
      let s := extras.foldl (fun s x => s.push t slice.version (some x) goal) s
      (s, some slice.version)) (stack, none)
  ({ p with stack }, previous.isSome)

/-- Go back to the latest state that can use a token, unless that is worse than what another
version has. -/
def goBack (t : ParseTable) (p : Parser) (v : Nat) (lookahead : Subtree) : Parser × Bool :=
  let position := p.stack.positionOf v
  let versions := p.stack.versionCount
  let stack := p.stack.clampCount v
  let p := { p with stack }
  let advanced := 0 < p.stack.countSinceError v
  let cost := p.stack.errorCost v
  let rec go (p : Parser) : List PastState → Parser × Bool
    | [] => (p, false)
    | e :: rest =>
      if e.state = 0 || e.position.byte = position.byte then go p rest
      else
        let depth := if advanced then e.depth + 1 else e.depth
        let wouldMerge := (List.range versions).any fun j =>
          p.stack.stateOf j = e.state && (p.stack.positionOf j).byte = position.byte
        if wouldMerge then go p rest
        else
          let newCost := cost + e.depth * costPerSkippedTree +
            (position.byte - e.position.byte) +
            (position.row - e.position.row) * costPerSkippedLine
          let (p, better) := p.betterExists v false newCost
          if better then (p, false)
          else if (t.actions e.state lookahead.symbol).isEmpty then go p rest
          else
            let (p, done) := p.backTo t v depth e.state
            if done then (p, true) else go p rest
  match (p.stack.heads[v]!).past with
  | some past => if lookahead.isError then (p, false) else go p past.toList
  | none => (p, false)

def removeInactive (s : Stack) (first : Nat) : Stack :=
  { s with heads := s.heads.extract 0 first ++
      (s.heads.extract first s.heads.size).filter fun h => h.status.isActive }

/-- Skip a token: it becomes part of the stretch of skipped text on top of the version. -/
def skipToken (t : ParseTable) (p : Parser) (v : Nat) (advanced : Bool) (lookahead : Subtree) :
    Parser :=
  let isExtra := (t.actions 1 lookahead.symbol).getLast? == some .shiftExtra
  let lookahead := if isExtra then lookahead.setExtra true else lookahead
  let place := p.stack.positionOf v
  let skipped := Subtree.branch t skippingSymbol #[lookahead] 0 place
  let (stack, skipped) :=
    if advanced then
      let (stack, slices) := p.stack.popCount v 1
      match slices[0]? with
      | some first =>
        let stack := if 1 < slices.size then
            { stack with heads := stack.heads.extract 0 (first.version + 1) }
          else stack
        (stack.renumber first.version v,
          Subtree.branch t skippingSymbol (first.trees.push skipped) 0 place)
      | none => (stack, skipped)
    else (p.stack, skipped)
  { p with stack := stack.push t v (some skipped) 0 }

def recover (t : ParseTable) (p : Parser) (v : Nat) (lookahead : Subtree) : Parser :=
  let versions := p.stack.versionCount
  let stack := p.stack.clampCount v
  let p := { p with stack }
  let advanced := 0 < p.stack.countSinceError v
  let cost := p.stack.errorCost v
  let (p, wentBack) := p.goBack t v lookahead
  let p := { p with stack := removeInactive p.stack versions }
  if wentBack && maxVersions < p.stack.versionCount then { p with stack := p.stack.halt v }
  else if lookahead.symbol = 0 then
    let error := Subtree.errorNode t #[] false (p.stack.positionOf v)
    let p := { p with stack := p.stack.push t v (some error) 1 }
    p.accept t v lookahead
  else
    let i := lookahead.info
    let newCost := cost + costPerSkippedTree + (i.stop.byte - i.before.byte) +
      (i.stop.row - i.before.row) * costPerSkippedLine
    let (p, better) := p.betterExists v false newCost
    if better then { p with stack := p.stack.halt v }
    else p.skipToken t v advanced lookahead

/-- Put a missing token on a version, if one makes the next token usable. -/
def insertMissing (t : ParseTable) (p : Parser) (v : Nat) (lookahead : Subtree) :
    Parser × Bool :=
  let state := p.stack.stateOf v
  let position := p.stack.positionOf v
  let rec go (p : Parser) : List Nat → Parser × Bool
    | [] => (p, false)
    | missing :: rest =>
      let after := match (t.actions state missing).getLast? with
        | some (.shift n _) => n
        | _ => 0
      if after = 0 || after = state then go p rest
      else match (t.actions after lookahead.symbol).head? with
        | some (.reduce ..) =>
          let new := p.stack.versionCount
          let stack := p.stack.copyVersion v
          let stack := stack.push t new (some (.missingLeaf missing position)) after
          let (p, canRead) := closeBefore t { p with stack } new lookahead.symbol
          if canRead then (p, true) else go p rest
        | _ => go p rest
  go p t.tokenOrder

def handleError (t : ParseTable) (p : Parser) (v : Nat) (lookahead : Subtree) : Parser :=
  let previous := p.stack.versionCount
  let (p, _) := p.closeBefore t v 0
  let versions := p.stack.versionCount
  let beginSkipping (p : Parser) (inserted : Bool) (w : Nat) : Parser × Bool :=
    let (p, inserted) := if inserted then (p, true) else p.insertMissing t w lookahead
    ({ p with stack := p.stack.push t w none 0 }, inserted)
  let (p, inserted) := beginSkipping p false v
  let (p, _) := ((List.range versions).filter (previous ≤ ·)).foldl
    (fun (p, inserted) w => beginSkipping p inserted w) (p, inserted)
  let stack := ((List.range versions).filter (previous ≤ ·)).foldl (fun s _ =>
    if s.canMerge v previous then s.merge t v previous else s) p.stack
  let p := { p with stack := stack.recordPast v maxPastDepth }
  p.recover t v lookahead

end Parser
end TagIndex.Parsing
