import TagIndex.Text.Similarity

/-! The arguments that the command line knows. -/

namespace TagIndex.CommandLine

inductive Argument where
  | exclude
  | files
  | output
  | recurse
  | verbose
  | help
deriving BEq, DecidableEq, Inhabited, Repr

namespace Argument

def all : List Argument := [exclude, files, output, recurse, verbose, help]

def longName? : Argument → Option String
  | exclude => some "exclude"
  | files => none
  | output => some "output"
  | recurse => some "recurse"
  | verbose => some "verbose"
  | help => some "help"

def letter? : Argument → Option Char
  | exclude => none
  | files => none
  | output => some 'f'
  | recurse => some 'R'
  | verbose => some 'v'
  | help => some 'h'

def takesValue : Argument → Bool
  | exclude => true
  | output => true
  | _ => false

def display : Argument → String
  | exclude => "--exclude <PREFIX>"
  | files => "[FILES]..."
  | output => "--output <OUTPUT>"
  | recurse => "--recurse"
  | verbose => "--verbose"
  | help => "--help"

def ofLongName? (name : String) : Option Argument := all.find? (·.longName? == some name)

def ofLetter? (c : Char) : Option Argument := all.find? (·.letter? == some c)

/-- How alike a word must be to a long name to be taken for it. -/
def similarEnough : Rat := 7 / 10

/-- The argument whose long name is most like a word, if one is similar enough; of equals the
last. -/
def mostSimilar? (word : String) : Option Argument :=
  (all.foldl (fun best a =>
    match a.longName? with
    | none => best
    | some name =>
      let s := Text.similarity word.toList name.toList
      if s < similarEnough then best
      else match best with
        | some (t, _) => if t ≤ s then some (s, a) else best
        | none => some (s, a)) none).map (·.2)

end Argument
end TagIndex.CommandLine
