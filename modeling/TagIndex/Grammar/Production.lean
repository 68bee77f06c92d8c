import TagIndex.Grammar.Rule

/-! A grammar in plain form: numbered symbols and productions without choices or repetitions.

Symbol 0 is the end of the text, the symbols from 1 on are the tokens in the order in which the
rules mention them, and the phrases follow. -/

namespace TagIndex.Grammar

structure Step where
  symbol : Nat
  prec : Option Int := none
  assoc : Option Assoc := none
  aliasName : Option String := none
  field : Option String := none
deriving BEq, Hashable, Inhabited

structure Production where
  head : Nat
  steps : Array Step
  weight : Int
deriving BEq, Hashable, Inhabited

structure Appearance where
  name : String
  visible : Bool
  named : Bool
deriving BEq, Inhabited

structure TokenEntry where
  lexeme : Lexeme
  appearance : Appearance
  uses : Nat := 1
deriving Inhabited

structure PhraseEntry where
  appearance : Appearance
  helper : Bool := false
  supertype : Bool := false
deriving Inhabited

structure Plain where
  tokens : Array TokenEntry
  phrases : Array PhraseEntry
  productions : Array Production
  extras : List Nat
  blanks : Text.CharSet
  word : Nat
  reserved : List Nat
deriving Inhabited

namespace Plain

def firstPhrase (g : Plain) : Nat := g.tokens.size + 1

def symbolCount (g : Plain) : Nat := g.firstPhrase + g.phrases.size

def isToken (g : Plain) (symbol : Nat) : Bool := 0 < symbol && symbol < g.firstPhrase

def isPhrase (g : Plain) (symbol : Nat) : Bool := g.firstPhrase ≤ symbol

def phrase! (g : Plain) (symbol : Nat) : PhraseEntry := g.phrases[symbol - g.firstPhrase]!

def token! (g : Plain) (symbol : Nat) : TokenEntry := g.tokens[symbol - 1]!

def appearance (g : Plain) (symbol : Nat) : Appearance :=
  if symbol = 0 then ⟨"end", false, true⟩
  else if g.isToken symbol then (g.token! symbol).appearance
  else (g.phrase! symbol).appearance

end Plain

/-- A name that starts with an underscore stands for nothing in the tree. -/
def Appearance.ofName (name : String) : Appearance := ⟨name, !name.startsWith "_", true⟩

def Rule.mapLeavesM {m : Type → Type} [Monad m] {α β : Type} (f : α → m β) : Rule α → m (Rule β)
  | .blank => pure .blank
  | .leaf a => Rule.leaf <$> f a
  | .choice rs => Rule.choice <$> rs.attach.mapM fun ⟨r, _⟩ => Rule.mapLeavesM f r
  | .seq rs => Rule.seq <$> rs.attach.mapM fun ⟨r, _⟩ => Rule.mapLeavesM f r
  | .repeat1 r => Rule.repeat1 <$> Rule.mapLeavesM f r
  | .prec n a r => Rule.prec n a <$> Rule.mapLeavesM f r
  | .weigh n r => Rule.weigh n <$> Rule.mapLeavesM f r
  | .called s r => Rule.called s <$> Rule.mapLeavesM f r
  | .field s r => Rule.field s <$> Rule.mapLeavesM f r

def Rule.mapLeaves {α β : Type} (f : α → β) (r : Rule α) : Rule β :=
  Id.run (Rule.mapLeavesM (fun a => pure (f a)) r)

inductive Numbered where
  | token (index : Nat)
  | rule (name : String)
deriving BEq, Inhabited

def numberLeaf : Leaf → StateM (Array TokenEntry) Numbered
  | .rule name => pure (.rule name)
  | .token lexeme => do
    let tokens ← get
    match tokens.findIdx? (·.lexeme == lexeme) with
    | some i =>
      set (tokens.modify i fun e => { e with uses := e.uses + 1 })
      pure (.token i)
    | none =>
      let appearance := match lexeme.spelling with
        | some s => ⟨s, true, false⟩
        | none => ⟨"", false, false⟩
      set (tokens.push { lexeme, appearance })
      pure (.token tokens.size)

def numberTokens (rules : List (String × Phrase)) :
    List (String × Rule Numbered) × Array TokenEntry :=
  let number (entry : String × Phrase) : StateM (Array TokenEntry) (String × Rule Numbered) :=
    (fun r => (entry.1, r)) <$> Rule.mapLeavesM numberLeaf entry.2
  (rules.mapM number).run #[]

/-- The token that makes up a whole rule, if no other rule mentions it: the rule's name is then
the token's. -/
def soleToken? (tokens : Array TokenEntry) : Rule Numbered → Option Nat
  | .leaf (.token i) => if (tokens[i]!).uses = 1 then some i else none
  | _ => none

structure Helpers where
  first : Nat
  bodies : Array (Rule Nat)
  names : Array String

/-- Replace every repetition by a helper phrase; equal bodies share one. -/
def nameRepeats (owner : String) : Rule Nat → StateM Helpers (Rule Nat)
  | .choice rs => Rule.choice <$> rs.attach.mapM fun ⟨r, _⟩ => nameRepeats owner r
  | .seq rs => Rule.seq <$> rs.attach.mapM fun ⟨r, _⟩ => nameRepeats owner r
  | .repeat1 r => do
    let body ← nameRepeats owner r
    let helpers ← get
    match helpers.bodies.findIdx? (· == body) with
    | some i => pure (.leaf (helpers.first + i))
    | none =>
      set { helpers with
        bodies := helpers.bodies.push body
        names := helpers.names.push (owner ++ "_repeat") }
      pure (.leaf (helpers.first + helpers.bodies.size))
  | .prec n a r => Rule.prec n a <$> nameRepeats owner r
  | .weigh n r => Rule.weigh n <$> nameRepeats owner r
  | .called s r => Rule.called s <$> nameRepeats owner r
  | .field s r => Rule.field s <$> nameRepeats owner r
  | r => pure r

structure Surroundings where
  prec : Option Int := none
  assoc : Option Assoc := none
  aliasName : Option String := none
  field : Option String := none

def heavier (a b : Int) : Int := if a.natAbs < b.natAbs then b else a

/-- The last step of a group that does not end the production competes like the text around the
group. -/
def closeGroup (s : Surroundings) (atEnd : Bool) (change : Surroundings → Step → Step)
    (steps : Array Step) : Array Step :=
  if atEnd || steps.isEmpty then steps else steps.modify (steps.size - 1) (change s)

def alternatives (s : Surroundings) (atEnd : Bool) : Rule Nat → List (Array Step × Int)
  | .blank => [(#[], 0)]
  | .leaf symbol => [(#[⟨symbol, s.prec, s.assoc, s.aliasName, s.field⟩], 0)]
  | .choice rs => rs.attach.flatMap fun ⟨r, _⟩ => alternatives s atEnd r
  | .seq rs =>
    let parts := rs.attach.map fun ⟨r, _⟩ => (alternatives s false r, alternatives s atEnd r)
    let rec join : List (List (Array Step × Int) × List (Array Step × Int)) →
        List (Array Step × Int) → List (Array Step × Int)
      | [], acc => acc
      | [(_, last)], acc => acc.flatMap fun (p, v) =>
          last.map fun (q, w) => (p ++ q, heavier v w)
      | (inner, _) :: rest, acc => join rest (acc.flatMap fun (p, v) =>
          inner.map fun (q, w) => (p ++ q, heavier v w))
    join parts [(#[], 0)]
  | .repeat1 r => alternatives s atEnd r
  | .prec n a r =>
    let inner := { s with prec := some n, assoc := a <|> s.assoc }
    (alternatives inner atEnd r).map fun (steps, w) =>
      let steps := closeGroup s atEnd (fun s step => { step with prec := s.prec }) steps
      (if a.isSome then
        closeGroup s atEnd (fun s step => { step with assoc := s.assoc }) steps
      else steps, w)
  | .weigh n r => (alternatives s atEnd r).map fun (steps, w) => (steps, heavier n w)
  | .called name r => alternatives { s with aliasName := some name } atEnd r
  | .field name r => alternatives { s with field := some name } atEnd r

def productionsOf (head : Nat) (r : Rule Nat) : Array Production :=
  (alternatives {} true r).foldl (fun ps (steps, weight) =>
    let p : Production := ⟨head, steps, weight⟩
    if ps.contains p then ps else ps.push p) #[]

structure AliasUse where
  counts : List (String × Nat) := []
  plain : Bool := false
deriving Inhabited

def AliasUse.add (u : AliasUse) : Option String → AliasUse
  | none => { u with plain := true }
  | some a =>
    if u.counts.any (·.1 == a) then
      { u with counts := u.counts.map fun (b, n) => if b == a then (b, n + 1) else (b, n) }
    else { u with counts := u.counts ++ [(a, 1)] }

/-- The most frequent alias of a symbol that never occurs without one. -/
def AliasUse.always? (u : AliasUse) : Option String :=
  if u.plain then none
  else (u.counts.foldl (fun best (a, n) =>
    match best with
    | some (_, m) => if m < n then some (a, n) else best
    | none => some (a, n)) none).map (·.1)

def standingAliases (symbolCount : Nat) (inlined extras : List Nat)
    (productions : Array Production) : Array (Option String) :=
  let uses := productions.foldl (fun uses p =>
    p.steps.foldl (fun uses step =>
      if inlined.contains step.symbol then uses
      else uses.modify step.symbol (·.add step.aliasName)) uses)
    (Array.replicate symbolCount ({} : AliasUse))
  let uses := extras.foldl (fun uses e => uses.modify e (·.add none)) uses
  uses.map (·.always?)

/-- Drop the aliases that a symbol has taken as its name. In a phrase where another alternative
needs the same alias at the same place, it stays. -/
def dropStanding (standing : Array (Option String)) (productions : Array Production) :
    Array Production :=
  productions.map fun p =>
    let siblings := productions.filter fun q => q.head == p.head && q != p
    { p with steps := p.steps.mapIdx fun j step =>
        if step.aliasName.isSome && standing[step.symbol]! == step.aliasName then
          let needed := siblings.any fun q => match q.steps[j]? with
            | some other => other.aliasName == step.aliasName &&
              standing[other.symbol]! != step.aliasName
            | none => false
          if needed then step else { step with aliasName := none }
        else step }

def Production.splice (p : Production) (i : Nat) (inner : Production) : Production :=
  match p.steps[i]? with
  | none => p
  | some outer =>
    let inserted := inner.steps.map fun step => { step with
      aliasName := outer.aliasName <|> step.aliasName
      field := outer.field <|> step.field }
    let inserted := inserted.modify (inserted.size - 1) fun step => { step with
      prec := step.prec <|> outer.prec
      assoc := step.assoc <|> outer.assoc }
    { p with
      steps := p.steps.extract 0 i ++ inserted ++ p.steps.extract (i + 1) p.steps.size
      weight := heavier p.weight inner.weight }

/-- Replace inlined phrases from step `i` on. The fuel bounds the number of steps looked at;
rules that are inlined may not contain themselves. -/
def expandFrom (inlined : List Nat) (productions : Array Production) :
    Nat → Nat → Production → List Production
  | 0, _, p => [p]
  | fuel + 1, i, p =>
    match p.steps[i]? with
    | none => [p]
    | some step =>
      if inlined.contains step.symbol then
        (productions.toList.filter (·.head == step.symbol)).flatMap fun inner =>
          expandFrom inlined productions fuel i (p.splice i inner)
      else expandFrom inlined productions fuel (i + 1) p

def inlineAll (inlined : List Nat) (productions : Array Production) : Array Production :=
  (productions.filter fun p => !inlined.contains p.head).foldl (fun ps p =>
    (expandFrom inlined productions 1000 0 p).foldl (fun ps q =>
      if ps.contains q then ps else ps.push q) ps) #[]

def Description.plain (g : Description) : Plain :=
  let (rules, tokens) := numberTokens g.rules
  -- Rules that are single tokens name these tokens, the first rule excepted.
  let sole (i : Nat) (r : Rule Numbered) : Option Nat :=
    if i = 0 then none else soleToken? tokens r
  let indexed := rules.zipIdx
  let tokens := indexed.foldl (fun tokens ((name, r), i) =>
    match sole i r with
    | some t => tokens.modify t fun e => { e with appearance := .ofName name }
    | none => tokens) tokens
  let named := indexed.filterMap fun ((name, r), i) => (sole i r).map fun t => (name, t + 1)
  let kept := indexed.filterMap fun ((name, r), i) =>
    if (sole i r).isSome then none else some (name, r)
  let first := tokens.size + 1
  let symbolOf (name : String) : Nat :=
    match named.find? (·.1 == name) with
    | some (_, symbol) => symbol
    | none => first + kept.findIdx (·.1 == name)
  let numbered := kept.map fun (name, r) =>
    (name, r.mapLeaves fun
      | .token i => i + 1
      | .rule s => symbolOf s)
  let (bodies, helpers) := (numbered.mapM fun (name, r) => nameRepeats name r).run
    ⟨first + kept.length, #[], #[]⟩
  let helperRules := helpers.bodies.toList.mapIdx fun i body =>
    let symbol := helpers.first + i
    Rule.choice [.seq [.leaf symbol, .leaf symbol], body]
  let productions := ((bodies ++ helperRules).mapIdx fun i r =>
    productionsOf (first + i) r).toArray.flatten
  let inlined := g.inlined.map symbolOf
  let extras := g.extras.map symbolOf
  let symbolCount := first + kept.length + helpers.bodies.size
  let standing := standingAliases symbolCount inlined extras productions
  let productions := inlineAll inlined (dropStanding standing productions)
  let standingName (symbol : Nat) (a : Appearance) : Appearance :=
    match standing[symbol]! with
    | some name => ⟨name, true, true⟩
    | none => a
  let phrases := kept.mapIdx fun i (name, _) => ({
    appearance := standingName (first + i) (.ofName name)
    supertype := g.supertypes.contains name } : PhraseEntry)
  let helperPhrases := helpers.names.toList.map fun name => ({
    appearance := ⟨name, false, false⟩, helper := true } : PhraseEntry)
  { tokens := tokens.mapIdx fun i e =>
      { e with appearance := standingName (i + 1) e.appearance }
    phrases := (phrases ++ helperPhrases).toArray
    productions
    extras
    blanks := g.blanks
    word := symbolOf g.word
    reserved := g.reserved.filterMap fun s =>
      (tokens.findIdx? (·.lexeme == .ofText s)).map (· + 1) }

end TagIndex.Grammar
