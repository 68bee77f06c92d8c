import TagIndex.CommandLine.UsageError

/-! Reading a command line. -/

namespace TagIndex.CommandLine

structure Reading where
  given : Given := {}
  used : List Argument := []
  pending : Option (Argument × List String) := none
deriving BEq, DecidableEq, Inhabited, Repr

namespace Reading

def markUsed (r : Reading) (a : Argument) : Reading :=
  if r.used.contains a then r else { r with used := r.used ++ [a] }

/-- Enter an argument with its values. An argument given twice is refused unless it may be
repeated, and paths may not be empty. On an error the reading still tells what counts as used. -/
def enter (r : Reading) (a : Argument) (values : List String) : Reading × Option UsageError :=
  let g := r.given
  let once (change : Given) : Reading × Option UsageError :=
    if r.used.contains a then ({ r with used := r.used.filter (· ≠ a) }, some (.repeated a))
    else ({ r.markUsed a with given := change }, none)
  match a with
  | .exclude =>
    if values = [] then (r, some (.valueMissing a))
    else ({ r.markUsed a with given := { g with exclude := g.exclude ++ values } }, none)
  | .files =>
    if values.contains "" then (r.markUsed a, some (.valueMissing a))
    else ({ r.markUsed a with given := { g with files := g.files ++ values } }, none)
  | .output =>
    match values with
    | [] => (r, some (.valueMissing a))
    | value :: _ =>
      match once { g with output := some value } with
      | (r, none) => (r, if value = "" then some (.valueMissing a) else none)
      | failed => failed
  | .recurse => once { g with recurse := true }
  | .verbose => once { g with verbose := true }
  | .help => (r, some .help)

def settle (r : Reading) : Reading × Option UsageError :=
  match r.pending with
  | none => (r, none)
  | some (a, values) => { r with pending := none }.enter a values

def settled (r : Reading) : Except UsageError Reading :=
  match r.settle with
  | (r, none) => .ok r
  | (_, some e) => .error e

def add (r : Reading) (a : Argument) (values : List String) : Except UsageError Reading := do
  let r ← r.settled
  match r.enter a values with
  | (r, none) => .ok r
  | (_, some e) => .error e

def await (r : Reading) (a : Argument) : Except UsageError Reading := do
  let r ← r.settled
  return { r with pending := some (a, []) }

def addFile (r : Reading) (word : String) : Except UsageError Reading :=
  match r.pending with
  | some (.files, values) => .ok { r with pending := some (.files, values ++ [word]) }
  | _ => do
    let r ← r.settled
    return { r with pending := some (.files, [word]) }

def addWord (r : Reading) (word : String) : Except UsageError Reading :=
  match r.pending with
  | some (a, []) => .ok { r with pending := some (a, [word]) }
  | _ => r.addFile word

def addLong (r : Reading) (word : List Char) : Except UsageError Reading :=
  let name := String.ofList (word.takeWhile (· ≠ '='))
  let value? : Option String := match word.dropWhile (· ≠ '=') with
    | [] => none
    | _ :: value => some (String.ofList value)
  match Argument.ofLongName? name, value? with
  | some a, some value =>
    if a.takesValue then r.add a [value]
    else .error (.valueUnneeded value a (r.used ++ [a]))
  | some a, none => if a.takesValue then r.await a else r.add a []
  | none, _ =>
    let similar := Argument.mostSimilar? name
    .error (.unknown ("--" ++ name) similar (r.settle.1.used ++ similar.toList))

/-- Take the letters that follow one hyphen. What follows a letter whose argument takes a value is
the value, after an equals sign or without one. -/
def addLetters (r : Reading) : List Char → Except UsageError Reading
  | [] => .ok r
  | c :: rest =>
    match Argument.ofLetter? c with
    | none => .error (.unknown ("-" ++ c.toString) none [])
    | some a =>
      if a.takesValue then
        match rest with
        | [] => r.await a
        | '=' :: value => r.add a [String.ofList value]
        | value => r.add a [String.ofList value]
      else do
        let r ← r.add a []
        r.addLetters rest

/-- Take all words. After two hyphens alone all words are files. -/
def addAll (r : Reading) : List String → Except UsageError Reading
  | [] => r.settled
  | word :: rest => do
    match word.toList with
    | ['-', '-'] => do
      let r ← rest.foldlM addFile r
      r.settled
    | '-' :: '-' :: name => (← r.addLong name).addAll rest
    | '-' :: c :: letters => (← r.addLetters (c :: letters)).addAll rest
    | _ => (← r.addWord word).addAll rest

end Reading

def given (words : List String) : Except UsageError Given :=
  Reading.given <$> ({} : Reading).addAll words

def parse (words : List String) : Except UsageError Options := Given.options <$> given words

def read : Reader := fun words => (given words).mapError UsageError.refusal

end TagIndex.CommandLine
