import TagIndex.Go.Statements
import TagIndex.Go.Types

/-! Expressions of Go, and the leaves that they are made of. -/

namespace TagIndex.Go
open Grammar
open Grammar.Phrase
open Grammar.Rule (seq field called prec weigh blank)

def primaryLevel : Int := 7

/-- The built-in functions whose first argument is a type. -/
def builtinName : Phrase := called "identifier" (oneOf [lit "new", lit "make"])

def binary (level : Int) (operators : List String) : Phrase :=
  prec level (some .left) (seq [
    field "left" (ref "_expression"),
    field "operator" (oneOf (operators.map lit)),
    field "right" (ref "_expression")])

def interpretedPart : Phrase := oneOf [
  called "interpreted_string_literal_content" (.leaf (.token interpretedStringContent)),
  ref "escape_sequence"]

def expressionRules : List (String × Phrase) := [
  ("_expression", oneOf [
    ref "unary_expression",
    ref "binary_expression",
    ref "selector_expression",
    ref "index_expression",
    ref "slice_expression",
    ref "call_expression",
    ref "type_assertion_expression",
    ref "type_conversion_expression",
    ref "type_instantiation_expression",
    ref "identifier",
    builtinName,
    ref "composite_literal",
    ref "func_literal",
    ref "_string_literal",
    ref "int_literal",
    ref "float_literal",
    ref "imaginary_literal",
    ref "rune_literal",
    ref "nil",
    ref "true",
    ref "false",
    ref "iota",
    ref "parenthesized_expression"]),
  ("parenthesized_expression", seq [lit "(", ref "_expression", lit ")"]),
  ("call_expression", prec primaryLevel none (oneOf [
    seq [
      field "function" builtinName,
      field "arguments" (called "argument_list" (ref "special_argument_list"))],
    seq [
      field "function" (ref "_expression"),
      field "type_arguments" (opt (ref "type_arguments")),
      field "arguments" (ref "argument_list")]])),
  ("variadic_argument", prec 0 (some .right) (seq [ref "_expression", lit "..."])),
  ("special_argument_list", seq [
    lit "(",
    opt (seq [
      ref "_type",
      many (seq [lit ",", ref "_expression"]),
      opt (lit ",")]),
    lit ")"]),
  ("argument_list", seq [
    lit "(",
    opt (seq [
      oneOf [ref "_expression", ref "variadic_argument"],
      many (seq [lit ",", oneOf [ref "_expression", ref "variadic_argument"]]),
      opt (lit ",")]),
    lit ")"]),
  ("selector_expression", prec primaryLevel none (seq [
    field "operand" (ref "_expression"),
    lit ".",
    field "field" (ref "_field_identifier")])),
  ("index_expression", prec primaryLevel none (weigh 1 (seq [
    field "operand" (ref "_expression"),
    lit "[",
    field "index" (ref "_expression"),
    lit "]"]))),
  ("slice_expression", prec primaryLevel none (seq [
    field "operand" (ref "_expression"),
    lit "[",
    oneOf [
      seq [
        field "start" (opt (ref "_expression")),
        lit ":",
        field "end" (opt (ref "_expression"))],
      seq [
        field "start" (opt (ref "_expression")),
        lit ":",
        field "end" (ref "_expression"),
        lit ":",
        field "capacity" (ref "_expression")]],
    lit "]"])),
  ("type_assertion_expression", prec primaryLevel none (seq [
    field "operand" (ref "_expression"),
    lit ".",
    lit "(",
    field "type" (ref "_type"),
    lit ")"])),
  ("type_conversion_expression", weigh (-1) (seq [
    field "type" (ref "_type"),
    lit "(",
    field "operand" (ref "_expression"),
    opt (lit ","),
    lit ")"])),
  ("type_instantiation_expression", weigh (-1) (seq [
    field "type" (ref "_type"),
    lit "[",
    commaSep1 (ref "_type"),
    opt (lit ","),
    lit "]"])),
  ("composite_literal", prec (-1) none (seq [
    field "type" (oneOf [
      ref "map_type",
      ref "slice_type",
      ref "array_type",
      ref "implicit_length_array_type",
      ref "struct_type",
      ref "_type_identifier",
      ref "generic_type",
      ref "qualified_type"]),
    field "body" (ref "literal_value")])),
  ("literal_value", seq [
    lit "\x7b",
    opt (seq [
      commaSep (oneOf [ref "literal_element", ref "keyed_element"]),
      opt (lit ",")]),
    lit "\x7d"]),
  ("literal_element", oneOf [ref "_expression", ref "literal_value"]),
  ("keyed_element", seq [
    field "key" (ref "literal_element"),
    lit ":",
    field "value" (ref "literal_element")]),
  ("func_literal", seq [
    lit "func",
    field "parameters" (ref "parameter_list"),
    result,
    field "body" (ref "block")]),
  ("unary_expression", prec unaryLevel none (seq [
    field "operator" (oneOf (["+", "-", "!", "^", "*", "&", "<-"].map lit)),
    field "operand" (ref "_expression")])),
  ("binary_expression", oneOf [
    binary 5 multiplicativeOperators,
    binary 4 additiveOperators,
    binary 3 comparisonOperators,
    binary 2 ["&&"],
    binary 1 ["||"]]),
  ("qualified_type", seq [
    field "package" (ref "_package_identifier"),
    lit ".",
    field "name" (ref "_type_identifier")]),
  ("identifier", tok identifier),
  ("_type_identifier", called "type_identifier" (ref "identifier")),
  ("_field_identifier", called "field_identifier" (ref "identifier")),
  ("_package_identifier", called "package_identifier" (ref "identifier")),
  ("_string_literal", oneOf [ref "raw_string_literal", ref "interpreted_string_literal"]),
  ("raw_string_literal", seq [
    lit "\x60",
    called "raw_string_literal_content" (.leaf (.token rawStringContent)),
    lit "\x60"]),
  ("interpreted_string_literal", seq [
    lit "\"",
    many interpretedPart,
    .leaf (.token closingQuote)]),
  ("escape_sequence", .leaf (.token ⟨none, escapeSequence, true, 0⟩)),
  ("int_literal", tok intLiteral),
  ("float_literal", tok floatLiteral),
  ("imaginary_literal", tok imaginaryLiteral),
  ("rune_literal", tok runeLiteral),
  ("nil", lit "nil"),
  ("true", lit "true"),
  ("false", lit "false"),
  ("iota", lit "iota"),
  ("comment", tok comment)]

end TagIndex.Go
