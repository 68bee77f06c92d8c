import TagIndex.Options

/-! What a reader of command lines answers: the arguments that were given, or a refusal. -/

namespace TagIndex.CommandLine

structure Given where
  exclude : List String := []
  files : List String := []
  output : Option String := none
  recurse : Bool := false
  verbose : Bool := false
deriving BEq, DecidableEq, Inhabited, Repr

/-- One hyphen as output stands for standard output. -/
def Given.options (g : Given) : Options where
  exclude := g.exclude
  files := g.files
  output := g.output.filter (· ≠ "-")
  recurse := g.recurse
  verbose := g.verbose

inductive RefusalKind where
  | help
  | conflict
  | other
deriving BEq, DecidableEq, Inhabited, Repr

structure Refusal where
  kind : RefusalKind
  text : String
deriving BEq, DecidableEq, Inhabited, Repr

abbrev Reader := List String → Except Refusal Given

end TagIndex.CommandLine
