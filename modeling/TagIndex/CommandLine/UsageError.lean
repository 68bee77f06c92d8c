import TagIndex.CommandLine.Argument
import TagIndex.CommandLine.Given

/-! Why a command line is not accepted, and the text shown then. -/

namespace TagIndex.CommandLine

inductive UsageError where
  | unknown (text : String) (similar : Option Argument) (used : List Argument)
  | valueMissing (argument : Argument)
  | valueUnneeded (value : String) (argument : Argument) (used : List Argument)
  | repeated (argument : Argument)
  | help
deriving BEq, DecidableEq, Inhabited, Repr

/-- How the program is called. Arguments already used are shown in place of a general hint. -/
def usageLine (used : List Argument) : String :=
  let shown := (used.filter (· ≠ .files)).eraseDups.map (" " ++ ·.display)
  "Usage: gotags" ++ (if used.isEmpty then " [OPTIONS]" else String.join shown) ++
    if used.contains .files then " <FILES>..." else " [FILES]..."

def helpText : String :=
  "Generate a ctags file for Go source files\n" ++
  "\n" ++
  usageLine [] ++ "\n" ++
  "\n" ++
  "Arguments:\n" ++
  "  [FILES]...  Go source files to index. Put paths that start with `-` after `--`\n" ++
  "\n" ++
  "Options:\n" ++
  "      --exclude <PREFIX>  Skip recursed files whose path under the walked directory " ++
    "starts with PREFIX\n" ++
  "  -f, --output <OUTPUT>   Write the tag file here instead of stdout (`-` for stdout)\n" ++
  "  -R, --recurse           Descend into directory arguments and index every .go file " ++
    "beneath them\n" ++
  "  -v, --verbose           Log each scanned file to stderr\n" ++
  "  -h, --help              Print help\n"

namespace UsageError

def summary : UsageError → String
  | unknown text _ _ => "unexpected argument '" ++ text ++ "' found"
  | valueMissing a => "a value is required for '" ++ a.display ++ "' but none was supplied"
  | valueUnneeded value a _ =>
    "unexpected value '" ++ value ++ "' for '" ++ a.display ++ "' found; no more were expected"
  | repeated a => "the argument '" ++ a.display ++ "' cannot be used multiple times"
  | help => ""

def tip? : UsageError → Option String
  | unknown _ (some a) _ => a.longName?.map fun name =>
    "a similar argument exists: '--" ++ name ++ "'"
  | unknown text none _ => some ("to pass '" ++ text ++ "' as a value, use '-- " ++ text ++ "'")
  | _ => none

def usage? : UsageError → Option String
  | unknown _ _ used => some (usageLine used)
  | valueUnneeded _ _ used => some (usageLine used)
  | repeated _ => some (usageLine [])
  | _ => none

def message : UsageError → String
  | help => helpText
  | e =>
    let paragraph (lead : String) : Option String → String
      | some text => "\n\n" ++ lead ++ text
      | none => ""
    "error: " ++ e.summary ++ paragraph "  tip: " e.tip? ++ paragraph "" e.usage? ++
      "\n\nFor more information, try '--help'.\n"

def kind : UsageError → RefusalKind
  | help => .help
  | repeated _ => .conflict
  | _ => .other

def refusal (e : UsageError) : Refusal := ⟨e.kind, e.message⟩

end UsageError
end TagIndex.CommandLine
