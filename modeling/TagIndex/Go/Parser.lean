import TagIndex.Go.Language
import TagIndex.Parsing.View

/-! The parser for Go. -/

namespace TagIndex.Go
open Parsing

/-- The table of the Go grammar, computed when it is first needed. -/
def table : Thunk Table.ParseTable := .mk fun _ => .build language.plain

def parse (source : String) : Tree := parseTree table.get source

end TagIndex.Go
