import TagIndex.Go.Expressions

/-! The Go language as a grammar. It accepts more than a compiler does: statements may stand at
the top level, and a file may have any number of package clauses. -/

namespace TagIndex.Go
open Grammar

def language : Description where
  rules := declarationRules ++ typeRules ++ statementRules ++ expressionRules
  extras := ["comment"]
  blanks := blanks
  inlined := ["_type", "_type_identifier", "_field_identifier", "_package_identifier",
    "_top_level_declaration", "_string_literal", "_interface_elem"]
  supertypes := ["_expression", "_type", "_simple_type", "_statement", "_simple_statement"]
  word := "identifier"
  reserved := ["break", "default", "func", "interface", "select",
    "case", "defer", "go", "map", "struct",
    "chan", "else", "goto", "package", "switch",
    "const", "fallthrough", "if", "range", "type",
    "continue", "for", "import", "return", "var"]

end TagIndex.Go
