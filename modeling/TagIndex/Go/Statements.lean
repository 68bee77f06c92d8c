import TagIndex.Go.Declarations

/-! Statements of Go. -/

namespace TagIndex.Go
open Grammar
open Grammar.Phrase
open Grammar.Rule (seq field called prec weigh blank)

def multiplicativeOperators : List String := ["*", "/", "%", "<<", ">>", "&", "&^"]

def additiveOperators : List String := ["+", "-", "|", "^"]

def comparisonOperators : List String := ["==", "!=", "<", "<=", ">", ">="]

def assignmentOperators : List String :=
  (multiplicativeOperators ++ additiveOperators).map (· ++ "=") ++ ["="]

def labelName : Phrase := called "label_name" (ref "identifier")

def emptyLabeledStatement : Phrase := called "labeled_statement" (ref "empty_labeled_statement")

def initializer : Phrase := opt (seq [field "initializer" (ref "_simple_statement"), lit ";"])

def statementRules : List (String × Phrase) := [
  ("block", seq [lit "\x7b", opt (ref "statement_list"), lit "\x7d"]),
  ("statement_list", oneOf [
    seq [
      ref "_statement",
      many (seq [terminator, ref "_statement"]),
      opt (seq [terminator, opt emptyLabeledStatement])],
    emptyLabeledStatement]),
  ("_statement", oneOf [
    ref "_declaration",
    ref "_simple_statement",
    ref "return_statement",
    ref "go_statement",
    ref "defer_statement",
    ref "if_statement",
    ref "for_statement",
    ref "expression_switch_statement",
    ref "type_switch_statement",
    ref "select_statement",
    ref "labeled_statement",
    ref "fallthrough_statement",
    ref "break_statement",
    ref "continue_statement",
    ref "goto_statement",
    ref "block",
    ref "empty_statement"]),
  ("empty_statement", lit ";"),
  ("_simple_statement", oneOf [
    ref "expression_statement",
    ref "send_statement",
    ref "inc_statement",
    ref "dec_statement",
    ref "assignment_statement",
    ref "short_var_declaration"]),
  ("expression_statement", ref "_expression"),
  ("send_statement", seq [
    field "channel" (ref "_expression"),
    lit "<-",
    field "value" (ref "_expression")]),
  ("receive_statement", seq [
    opt (seq [field "left" (ref "expression_list"), oneOf [lit "=", lit ":="]]),
    field "right" (ref "_expression")]),
  ("inc_statement", seq [ref "_expression", lit "++"]),
  ("dec_statement", seq [ref "_expression", lit "--"]),
  ("assignment_statement", seq [
    field "left" (ref "expression_list"),
    field "operator" (oneOf (assignmentOperators.map lit)),
    field "right" (ref "expression_list")]),
  ("short_var_declaration", seq [
    field "left" (ref "expression_list"),
    lit ":=",
    field "right" (ref "expression_list")]),
  ("labeled_statement", seq [field "label" labelName, lit ":", ref "_statement"]),
  ("empty_labeled_statement", seq [field "label" labelName, lit ":"]),
  ("fallthrough_statement", prec 0 (some .left) (lit "fallthrough")),
  ("break_statement", seq [lit "break", opt labelName]),
  ("continue_statement", seq [lit "continue", opt labelName]),
  ("goto_statement", seq [lit "goto", labelName]),
  ("return_statement", seq [lit "return", opt (ref "expression_list")]),
  ("go_statement", seq [lit "go", ref "_expression"]),
  ("defer_statement", seq [lit "defer", ref "_expression"]),
  ("if_statement", seq [
    lit "if",
    initializer,
    field "condition" (ref "_expression"),
    field "consequence" (ref "block"),
    opt (seq [
      lit "else",
      field "alternative" (oneOf [ref "block", ref "if_statement"])])]),
  ("for_statement", seq [
    lit "for",
    opt (oneOf [ref "_expression", ref "for_clause", ref "range_clause"]),
    field "body" (ref "block")]),
  ("for_clause", seq [
    field "initializer" (opt (ref "_simple_statement")),
    lit ";",
    field "condition" (opt (ref "_expression")),
    lit ";",
    field "update" (opt (ref "_simple_statement"))]),
  ("range_clause", seq [
    opt (seq [field "left" (ref "expression_list"), oneOf [lit "=", lit ":="]]),
    lit "range",
    field "right" (ref "_expression")]),
  ("expression_switch_statement", seq [
    lit "switch",
    initializer,
    field "value" (opt (ref "_expression")),
    lit "\x7b",
    many (oneOf [ref "expression_case", ref "default_case"]),
    lit "\x7d"]),
  ("expression_case", seq [
    lit "case",
    field "value" (ref "expression_list"),
    lit ":",
    opt (ref "statement_list")]),
  ("default_case", seq [lit "default", lit ":", opt (ref "statement_list")]),
  ("type_switch_statement", seq [
    lit "switch",
    ref "_type_switch_header",
    lit "\x7b",
    many (oneOf [ref "type_case", ref "default_case"]),
    lit "\x7d"]),
  ("_type_switch_header", seq [
    initializer,
    opt (seq [field "alias" (ref "expression_list"), lit ":="]),
    field "value" (ref "_expression"),
    lit ".",
    lit "(",
    lit "type",
    lit ")"]),
  ("type_case", seq [
    lit "case",
    field "type" (commaSep1 (ref "_type")),
    lit ":",
    opt (ref "statement_list")]),
  ("select_statement", seq [
    lit "select",
    lit "\x7b",
    many (oneOf [ref "communication_case", ref "default_case"]),
    lit "\x7d"]),
  ("communication_case", seq [
    lit "case",
    field "communication" (oneOf [ref "send_statement", ref "receive_statement"]),
    lit ":",
    opt (ref "statement_list")])]

end TagIndex.Go
