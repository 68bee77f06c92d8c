import TagIndex.Go.Declarations

/-! Type expressions of Go. -/

namespace TagIndex.Go
open Grammar
open Grammar.Phrase
open Grammar.Rule (seq field called prec weigh blank)

def unaryLevel : Int := 6

def typeRules : List (String × Phrase) := [
  ("_type", oneOf [ref "_simple_type", ref "parenthesized_type"]),
  ("parenthesized_type", seq [lit "(", ref "_type", lit ")"]),
  ("_simple_type", oneOf [
    weigh (-1) (ref "_type_identifier"),
    ref "generic_type",
    ref "qualified_type",
    ref "pointer_type",
    ref "struct_type",
    ref "interface_type",
    ref "array_type",
    ref "slice_type",
    weigh 3 (ref "map_type"),
    ref "channel_type",
    ref "function_type",
    ref "negated_type"]),
  ("generic_type", weigh 1 (seq [
    field "type" (oneOf [ref "_type_identifier", ref "qualified_type", ref "negated_type"]),
    field "type_arguments" (ref "type_arguments")])),
  ("type_arguments", weigh 2 (seq [
    lit "[",
    commaSep1 (ref "type_elem"),
    opt (lit ","),
    lit "]"])),
  ("pointer_type", prec unaryLevel none (seq [lit "*", ref "_type"])),
  ("array_type", prec 0 (some .right) (seq [
    lit "[",
    field "length" (ref "_expression"),
    lit "]",
    field "element" (ref "_type")])),
  ("implicit_length_array_type", seq [
    lit "[",
    lit "...",
    lit "]",
    field "element" (ref "_type")]),
  ("slice_type", prec 0 (some .right) (seq [
    lit "[",
    lit "]",
    field "element" (ref "_type")])),
  ("struct_type", seq [lit "struct", ref "field_declaration_list"]),
  ("negated_type", prec 0 (some .left) (seq [lit "~", ref "_type"])),
  ("field_declaration_list", seq [
    lit "\x7b",
    sepEnd (ref "field_declaration") terminator,
    lit "\x7d"]),
  ("field_declaration", seq [
    oneOf [
      seq [
        commaSep1 (field "name" (ref "_field_identifier")),
        field "type" (ref "_type")],
      seq [
        opt (lit "*"),
        field "type" (oneOf [
          ref "_type_identifier",
          ref "qualified_type",
          ref "generic_type"])]],
    field "tag" (opt (ref "_string_literal"))]),
  ("interface_type", seq [
    lit "interface",
    lit "\x7b",
    sepEnd (ref "_interface_elem") terminator,
    lit "\x7d"]),
  ("_interface_elem", oneOf [ref "method_elem", ref "type_elem"]),
  ("method_elem", seq [
    field "name" (ref "_field_identifier"),
    field "parameters" (ref "parameter_list"),
    result]),
  ("type_elem", sepBy1 (ref "_type") (lit "|")),
  ("map_type", prec 0 (some .right) (seq [
    lit "map",
    lit "[",
    field "key" (ref "_type"),
    lit "]",
    field "value" (ref "_type")])),
  ("channel_type", prec 0 (some .left) (oneOf [
    seq [lit "chan", field "value" (ref "_type")],
    seq [lit "chan", lit "<-", field "value" (ref "_type")],
    prec unaryLevel none (seq [lit "<-", lit "chan", field "value" (ref "_type")])])),
  ("function_type", prec 0 (some .right) (seq [
    lit "func",
    field "parameters" (ref "parameter_list"),
    result]))]

end TagIndex.Go
