import TagIndex.Go.Tokens

/-! Go at the top level: the package clause and the declarations. -/

namespace TagIndex.Go
open Grammar
open Grammar.Phrase
open Grammar.Rule (seq field called prec weigh blank)

/-- What ends a statement or declaration. The end of the text counts as well: it is read as the
null character. -/
def terminator : Phrase := oneOf [tok newline, lit ";", lit "\x00"]

def result : Phrase := field "result" (opt (oneOf [ref "parameter_list", ref "_simple_type"]))

def declarationRules : List (String × Phrase) := [
  ("source_file", seq [
    many (oneOf [
      seq [ref "_statement", terminator],
      seq [ref "_top_level_declaration", terminator]]),
    opt (ref "_top_level_declaration")]),
  ("_top_level_declaration", oneOf [
    ref "package_clause",
    ref "function_declaration",
    ref "method_declaration",
    ref "import_declaration"]),
  ("package_clause", seq [lit "package", ref "_package_identifier"]),
  ("import_declaration", seq [
    lit "import",
    oneOf [ref "import_spec", ref "import_spec_list"]]),
  ("import_spec", seq [
    opt (field "name" (oneOf [ref "dot", ref "blank_identifier", ref "_package_identifier"])),
    field "path" (ref "_string_literal")]),
  ("dot", lit "."),
  ("blank_identifier", lit "_"),
  ("import_spec_list", seq [
    lit "(",
    sepEnd (ref "import_spec") terminator,
    lit ")"]),
  ("_declaration", oneOf [
    ref "const_declaration",
    ref "type_declaration",
    ref "var_declaration"]),
  ("const_declaration", seq [
    lit "const",
    oneOf [
      ref "const_spec",
      seq [lit "(", many (seq [ref "const_spec", terminator]), lit ")"]]]),
  ("const_spec", prec 0 (some .left) (seq [
    field "name" (commaSep1 (ref "identifier")),
    opt (seq [
      opt (field "type" (ref "_type")),
      lit "=",
      field "value" (ref "expression_list")])])),
  ("var_declaration", seq [
    lit "var",
    oneOf [ref "var_spec", ref "var_spec_list"]]),
  ("var_spec", seq [
    commaSep1 (field "name" (ref "identifier")),
    oneOf [
      seq [
        field "type" (ref "_type"),
        opt (seq [lit "=", field "value" (ref "expression_list")])],
      seq [lit "=", field "value" (ref "expression_list")]]]),
  ("var_spec_list", seq [
    lit "(",
    many (seq [ref "var_spec", terminator]),
    lit ")"]),
  ("function_declaration", prec 1 (some .right) (seq [
    lit "func",
    field "name" (ref "identifier"),
    field "type_parameters" (opt (ref "type_parameter_list")),
    field "parameters" (ref "parameter_list"),
    result,
    field "body" (opt (ref "block"))])),
  ("method_declaration", prec 1 (some .right) (seq [
    lit "func",
    field "receiver" (ref "parameter_list"),
    field "name" (ref "_field_identifier"),
    field "parameters" (ref "parameter_list"),
    result,
    field "body" (opt (ref "block"))])),
  ("type_parameter_list", seq [
    lit "[",
    commaSep1 (ref "type_parameter_declaration"),
    opt (lit ","),
    lit "]"]),
  ("type_parameter_declaration", seq [
    commaSep1 (field "name" (ref "identifier")),
    field "type" (called "type_constraint" (ref "type_elem"))]),
  ("parameter_list", seq [
    lit "(",
    opt (seq [
      commaSep (oneOf [ref "parameter_declaration", ref "variadic_parameter_declaration"]),
      opt (lit ",")]),
    lit ")"]),
  ("parameter_declaration", seq [
    commaSep (field "name" (ref "identifier")),
    field "type" (ref "_type")]),
  ("variadic_parameter_declaration", seq [
    field "name" (opt (ref "identifier")),
    lit "...",
    field "type" (ref "_type")]),
  ("type_alias", seq [
    field "name" (ref "_type_identifier"),
    field "type_parameters" (opt (ref "type_parameter_list")),
    lit "=",
    field "type" (ref "_type")]),
  ("type_declaration", seq [
    lit "type",
    oneOf [
      ref "type_spec",
      ref "type_alias",
      seq [lit "(", sepEnd (oneOf [ref "type_spec", ref "type_alias"]) terminator, lit ")"]]]),
  ("type_spec", seq [
    field "name" (ref "_type_identifier"),
    field "type_parameters" (opt (ref "type_parameter_list")),
    field "type" (ref "_type")]),
  ("expression_list", commaSep1 (ref "_expression"))]

end TagIndex.Go
