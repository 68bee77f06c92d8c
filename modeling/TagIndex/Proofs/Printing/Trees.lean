import TagIndex.Proofs.Printing.Files
import TagIndex.Proofs.Printing.Layout

/-! The trees of declarations as they are printed. -/

namespace TagIndex.Go
open Grammar Grammar.Phrase Text TagIndex.Tree

variable {source : String} {role : Role} {r : Phrase} {g before name rest : List Char}

def mark (spelling : String) (before : List Char) : Tree :=
  placed spelling false none before spelling.toList []

def packageTree (before name : List Char) : Tree :=
  placed "package_clause" true none before ("package ".toList ++ name) [
    mark "package" before,
    placed "package_identifier" true none (before ++ "package ".toList) name []]

theorem lays_package (named : IsDeclName name)
    (text : source.toList = before ++ packageText name rest) :
    Lays source {} (ref "_top_level_declaration") (packageText name rest)
      [packageTree before name] ('\n' :: rest) := by
  have keyword : Lays source {} (lit "package") (packageText name rest) [mark "package" before]
      (' ' :: (name ++ '\n' :: rest)) :=
    .token "package" (g := []) (by decide) rfl (fun _ => ends_blank) text
  have name : Lays source {} (ref "_package_identifier") (' ' :: (name ++ '\n' :: rest))
      [placed "package_identifier" true none (before ++ "package ".toList) name []]
      ('\n' :: rest) :=
    .word "package_identifier" (g := [' ']) (by decide) rfl named (by decide) ends_newline
      (by simpa [packageText] using text)
  exact .hidden rfl rfl rfl (.among (by simp) (.phrase _ _ rfl rfl rfl rfl (.next keyword
    (.last name))))

def signatureTrees (before : List Char) : List Tree := [
  placed "parameter_list" true (some "parameters") before "()".toList [
    mark "(" before,
    mark ")" (before ++ ['('])],
  placed "block" true (some "body") (before ++ "() ".toList) "\x7b\x7d".toList [
    mark "\x7b" (before ++ "() ".toList),
    mark "\x7d" (before ++ "() \x7b".toList)]]

theorem lays_signature (text : source.toList = before ++ signature rest) :
    Lays source {} (.seq [.field "parameters" (ref "parameter_list"), result,
      .field "body" (opt (ref "block"))]) (signature rest) (signatureTrees before)
      ('\n' :: rest) := by
  have opening : Lays source {} (lit "(") (signature rest) [mark "(" before] _ :=
    .sign "(" (g := []) (by decide) (by decide) rfl text
  have closing : Lays source {} (lit ")") (')' :: ' ' :: '\x7b' :: '\x7d' :: '\n' :: rest)
      [mark ")" (before ++ ['('])] _ :=
    .sign ")" (g := []) (by decide) (by decide) rfl (by simpa [signature] using text)
  have braceOpening : Lays source {} (lit "\x7b") (' ' :: '\x7b' :: '\x7d' :: '\n' :: rest)
      [mark "\x7b" (before ++ "() ".toList)] _ :=
    .sign "\x7b" (g := [' ']) (by decide) (by decide) rfl
      (by simpa [signature] using text)
  have braceClosing : Lays source {} (lit "\x7d") ('\x7d' :: '\n' :: rest)
      [mark "\x7d" (before ++ "() \x7b".toList)] _ :=
    .sign "\x7d" (g := []) (by decide) (by decide) rfl (by simpa [signature] using text)
  have parameters : Lays source {} (.field "parameters" (ref "parameter_list")) (signature rest)
      _ _ :=
    .field (.phrase before "()".toList rfl rfl rfl rfl (.next opening (.next .none
      (.last closing))))
  have body : Lays source {} (.field "body" (opt (ref "block")))
      (' ' :: '\x7b' :: '\x7d' :: '\n' :: rest) _ _ :=
    .field (.some (.phrase (before ++ "() ".toList) "\x7b\x7d".toList rfl rfl rfl rfl
      (.next braceOpening (.next .none (.last braceClosing)))))
  exact .next parameters (.next (.field .none) (.last body))

def functionTree (before name : List Char) : Tree :=
  placed "function_declaration" true none before ("func ".toList ++ name ++ "() \x7b\x7d".toList)
    (mark "func" before ::
      placed "identifier" true (some "name") (before ++ "func ".toList) name [] ::
      signatureTrees (before ++ "func ".toList ++ name))

theorem lays_function (named : IsDeclName name)
    (text : source.toList = before ++ functionText name rest) :
    Lays source {} (ref "_top_level_declaration") (functionText name rest)
      [functionTree before name] ('\n' :: rest) := by
  have keyword : Lays source {} (lit "func") (functionText name rest) [mark "func" before]
      (' ' :: (name ++ signature rest)) :=
    .token "func" (g := []) (by decide) rfl (fun _ => ends_blank) text
  have declared : Lays source {} (.field "name" (ref "identifier"))
      (' ' :: (name ++ signature rest))
      [placed "identifier" true (some "name") (before ++ "func ".toList) name []]
      (signature rest) :=
    .field (.word "identifier" (g := [' ']) (by decide) rfl named (by decide) ends_signature
      (by simpa [functionText] using text))
  have text' : source.toList = (before ++ "func ".toList ++ name) ++ signature rest := by
    simpa [functionText] using text
  exact .hidden rfl rfl rfl (.among (by simp) (.phrase _ _ rfl rfl rfl rfl (.prec (.next keyword
    (.next declared (.next (.field .none) (lays_signature text')))))))

theorem lays_type (unnamed : role.aliasName = none) (named : IsDeclName name) (gap : Gap g)
    (ends : Ends rest) (split : source.toList = before ++ (name ++ rest)) :
    Lays source role (ref "_type") (g ++ (name ++ rest))
      [placed "type_identifier" true role.field before name []] rest := by
  have identifier : Lays source role (ref "_type_identifier") (g ++ (name ++ rest))
      [placed "type_identifier" true role.field before name []] rest :=
    .word "type_identifier" (by decide) unnamed named gap ends split
  have simple : Lays source role (ref "_simple_type") (g ++ (name ++ rest)) _ rest :=
    .hidden rfl rfl unnamed (.among List.mem_cons_self (.weigh identifier))
  exact .hidden rfl rfl unnamed (.among List.mem_cons_self simple)

def receiverTree (before : List Char) : Tree :=
  placed "parameter_list" true (some "receiver") before "(r T)".toList [
    mark "(" before,
    placed "parameter_declaration" true none (before ++ ['(']) "r T".toList [
      placed "identifier" true (some "name") (before ++ ['(']) ['r'] [],
      placed "type_identifier" true (some "type") (before ++ "(r ".toList) ['T'] []],
    mark ")" (before ++ "(r T".toList)]

theorem lays_receiver (text : source.toList = before ++ receiverText rest) :
    Lays source {} (.field "receiver" (ref "parameter_list")) (' ' :: receiverText rest)
      [receiverTree before] rest := by
  have opening : Lays source {} (lit "(") (' ' :: receiverText rest) [mark "(" before] _ :=
    .sign "(" (g := [' ']) (by decide) (by decide) rfl text
  have name : Lays source {} (.field "name" (ref "identifier")) ('r' :: ' ' :: 'T' :: ')' :: rest)
      [placed "identifier" true (some "name") (before ++ ['(']) ['r'] []] _ :=
    .field (.word "identifier" (g := []) (by decide) rfl named_r (by decide) ends_blank
      (by simpa [receiverText] using text))
  have type : Lays source {} (.field "type" (ref "_type")) (' ' :: 'T' :: ')' :: rest)
      [placed "type_identifier" true (some "type") (before ++ "(r ".toList) ['T'] []] _ :=
    .field (lays_type (g := [' ']) rfl named_t (by decide) ends_paren
      (by simpa [receiverText] using text))
  have parameter : Lays source {} (ref "parameter_declaration") ('r' :: ' ' :: 'T' :: ')' :: rest)
      _ _ :=
    .phrase (before ++ ['(']) "r T".toList rfl rfl rfl rfl
      (.next (.some (.next name (.last .nomore))) (.last type))
  have closing : Lays source {} (lit ")") (')' :: rest) [mark ")" (before ++ "(r T".toList)] _ :=
    .sign ")" (g := []) (by decide) (by decide) rfl (by simpa [receiverText] using text)
  have parameters : Lays source {} (commaSep (oneOf [ref "parameter_declaration",
      ref "variadic_parameter_declaration"])) ('r' :: ' ' :: 'T' :: ')' :: rest) _ _ :=
    .some (.next (.among List.mem_cons_self parameter) (.last .nomore))
  exact .field (.phrase before "(r T)".toList rfl rfl rfl rfl (.next opening
    (.next (.some (.next parameters (.last .none))) (.last closing))))

def methodTree (before name : List Char) : Tree :=
  placed "method_declaration" true none before
    ("func (r T) ".toList ++ name ++ "() \x7b\x7d".toList)
    (mark "func" before :: receiverTree (before ++ "func ".toList) ::
      placed "field_identifier" true (some "name") (before ++ "func (r T) ".toList) name [] ::
      signatureTrees (before ++ "func (r T) ".toList ++ name))

theorem lays_method (named : IsDeclName name)
    (text : source.toList = before ++ methodText name rest) :
    Lays source {} (ref "_top_level_declaration") (methodText name rest)
      [methodTree before name] ('\n' :: rest) := by
  have keyword : Lays source {} (lit "func") (methodText name rest) [mark "func" before]
      (' ' :: receiverText (' ' :: (name ++ signature rest))) :=
    .token "func" (g := []) (by decide) rfl (fun _ => ends_blank) text
  have atReceiver : source.toList = (before ++ "func ".toList) ++
      receiverText (' ' :: (name ++ signature rest)) := by
    simpa [methodText] using text
  have declared : Lays source {} (.field "name" (ref "_field_identifier"))
      (' ' :: (name ++ signature rest))
      [placed "field_identifier" true (some "name") (before ++ "func (r T) ".toList) name []]
      (signature rest) :=
    .field (.word "field_identifier" (g := [' ']) (by decide) rfl named (by decide) ends_signature
      (by simpa [methodText, receiverText] using text))
  have atSignature : source.toList = (before ++ "func (r T) ".toList ++ name) ++
      signature rest := by
    simpa [methodText, receiverText] using text
  exact .hidden rfl rfl rfl (.among (by simp) (.phrase _ _ rfl rfl rfl rfl (.prec (.next keyword
    (.next (lays_receiver atReceiver) (.next declared (lays_signature atSignature)))))))

def importTree (before : List Char) : Tree :=
  placed "import_declaration" true none before "import \"fmt\"".toList [
    mark "import" before,
    placed "import_spec" true none (before ++ "import ".toList) "\"fmt\"".toList [
      placed "interpreted_string_literal" true (some "path") (before ++ "import ".toList)
        "\"fmt\"".toList [
        mark "\"" (before ++ "import ".toList),
        placed "interpreted_string_literal_content" true none (before ++ "import \"".toList)
          "fmt".toList [],
        mark "\"" (before ++ "import \"fmt".toList)]]]

theorem reads_content :
    language.Reads interpretedStringContent (pathText rest) "fmt".toList ('"' :: rest) where
  skipped := .done
  adjacent _ := rfl
  spelled := .inl content_matches
  longest longer among spelled := by
    have noQuote : '"' ∉ longer := not_quote_of_content spelled
    obtain ⟨after, split⟩ := among
    by_contra past
    match longer, split, noQuote, past with
    | _ :: _ :: _ :: d :: more, split, noQuote, _ =>
      simp only [List.cons_append, String.reduceToList, List.nil_append, List.cons.injEq] at split
      obtain ⟨-, -, -, rfl, -⟩ := split
      simp at noQuote
    | [], _, _, past | [_], _, _, past | [_, _], _, _, past | [_, _, _], _, _, past =>
      simp at past
  uncut _ longer among word := length_le_of_identifier (identifier_of_isWord word) among (by decide)
    (ends_cons (by decide))
  unreserved word := by
    have same := Option.some.inj (word_token.symm.trans word)
    cases congrArg Lexeme.adjacent same

theorem lays_content (text : source.toList = before ++ pathText rest) :
    Lays source {} interpretedPart (pathText rest)
      [placed "interpreted_string_literal_content" true none before "fmt".toList []]
      ('"' :: rest) := by
  have split : source.toList = before ++ ("fmt".toList ++ '"' :: rest) := text
  exact .among List.mem_cons_self (.called (.leaf
    (.token rfl (.inl rfl) ⟨rfl, rfl, rfl⟩ reads_content (stands_placed split)) rfl))

theorem lays_import (text : source.toList = before ++ importText rest) :
    Lays source {} (ref "_top_level_declaration") (importText rest) [importTree before]
      ('\n' :: rest) := by
  have keyword : Lays source {} (lit "import") (importText rest) [mark "import" before] _ :=
    .token "import" (g := []) (by decide) rfl (fun _ => ends_blank) text
  have opening : Lays source {} (lit "\"") (' ' :: '"' :: pathText ('\n' :: rest))
      [mark "\"" (before ++ "import ".toList)] (pathText ('\n' :: rest)) :=
    .sign "\"" (g := [' ']) (by decide) (by decide) rfl
      (by simpa [importText, pathText] using text)
  have atPath : source.toList = (before ++ "import \"".toList) ++ pathText ('\n' :: rest) := by
    simpa [importText] using text
  have closing : Lays source {} (.leaf (.token closingQuote)) ('"' :: '\n' :: rest)
      [mark "\"" (before ++ "import \"fmt".toList)] ('\n' :: rest) := by
    have other : ¬ identifier.Matches ['"'] := by decide
    have read : language.Reads closingQuote ('"' :: '\n' :: rest) ['"'] ('\n' :: rest) :=
      reads_of_literal (l := closingQuote) (g := []) (Pattern.literal?_text "\"")
        (Pattern.matches_text "\"") (by decide) (fun _ => rfl) (fun matched => absurd matched other)
    have split : source.toList = (before ++ "import \"fmt".toList) ++ (['"'] ++ '\n' :: rest) := by
      simpa [importText, pathText] using text
    exact .leaf (.token rfl (.inr rfl) ⟨rfl, rfl, rfl⟩ read (stands_placed split)) rfl
  have string : Lays source {} (.field "path" (ref "_string_literal"))
      (' ' :: '"' :: pathText ('\n' :: rest)) _ ('\n' :: rest) :=
    .field (.hidden rfl rfl rfl (.among (List.mem_cons_of_mem _ List.mem_cons_self)
      (.phrase (before ++ "import ".toList) "\"fmt\"".toList rfl rfl rfl rfl (.next opening
        (.next (.more (lays_content atPath) .nomore) (.last closing))))))
  have spec : Lays source {} (ref "import_spec") (' ' :: '"' :: pathText ('\n' :: rest)) _ _ :=
    .phrase (before ++ "import ".toList) "\"fmt\"".toList rfl rfl rfl rfl
      (.next .none (.last string))
  exact .hidden rfl rfl rfl (.among (by simp) (.phrase _ _ rfl rfl rfl rfl (.next keyword
    (.last (.among List.mem_cons_self spec)))))

def specTree (kind nameKind : String) (before name : List Char) : Tree :=
  placed kind true none before (name ++ " int".toList) [
    placed nameKind true (some "name") before name [],
    placed "type_identifier" true (some "type") (before ++ name ++ [' ']) "int".toList []]

def specTrees (kind nameKind : String) : List Char → List (List Char) → List Tree
  | _, [] => []
  | before, name :: names => specTree kind nameKind (before ++ ['\t']) name ::
      specTrees kind nameKind (before ++ specLines [name]) names

def typesTree (before : List Char) (names : List (List Char)) : Tree :=
  placed "type_declaration" true none before ("type (\n".toList ++ specLines names ++ [')'])
    (mark "type" before :: mark "(" (before ++ "type ".toList) ::
      (specTrees "type_spec" "type_identifier" (before ++ "type (\n".toList) names ++
        [mark ")" (before ++ "type (\n".toList ++ specLines names)]))

def valuesTree (before : List Char) (names : List (List Char)) : Tree :=
  placed "var_declaration" true none before ("var (\n".toList ++ specLines names ++ [')']) [
    mark "var" before,
    placed "var_spec_list" true none (before ++ "var ".toList)
      ("(\n".toList ++ specLines names ++ [')'])
      (mark "(" (before ++ "var ".toList) ::
        (specTrees "var_spec" "identifier" (before ++ "var (\n".toList) names ++
          [mark ")" (before ++ "var (\n".toList ++ specLines names)]))]

def LaysSpecs (source : String) (r : Phrase) (kind nameKind : String) : Prop :=
  ∀ {before g name rest : List Char}, IsDeclName name → Gap g →
    source.toList = before ++ (name ++ ' ' :: 'i' :: 'n' :: 't' :: '\n' :: rest) →
    Lays source {} r (g ++ (name ++ ' ' :: 'i' :: 'n' :: 't' :: '\n' :: rest))
      [specTree kind nameKind before name] ('\n' :: rest)

theorem lays_int (text : source.toList = before ++ (' ' :: 'i' :: 'n' :: 't' :: '\n' :: rest)) :
    Lays source {} (.field "type" (ref "_type")) (' ' :: 'i' :: 'n' :: 't' :: '\n' :: rest)
      [placed "type_identifier" true (some "type") (before ++ [' ']) "int".toList []]
      ('\n' :: rest) :=
  .field (lays_type (g := [' ']) rfl named_int (by decide) ends_newline (by simpa using text))

theorem laysSpecs_type : LaysSpecs source typeSpec "type_spec" "type_identifier" := by
  intro before g name rest named gap text
  have declared : Lays source {} (.field "name" (ref "_type_identifier"))
      (g ++ (name ++ ' ' :: 'i' :: 'n' :: 't' :: '\n' :: rest))
      [placed "type_identifier" true (some "name") before name []] _ :=
    .field (.word "type_identifier" (by decide) rfl named gap ends_blank text)
  have atType : source.toList = (before ++ name) ++ ' ' :: 'i' :: 'n' :: 't' :: '\n' :: rest := by
    simpa using text
  exact .among List.mem_cons_self (.phrase _ _ rfl rfl rfl rfl (.next declared
    (.next (.field .none) (.last (lays_int atType)))))

theorem laysSpecs_var : LaysSpecs source (ref "var_spec") "var_spec" "identifier" := by
  intro before g name rest named gap text
  have declared : Lays source {} (.field "name" (ref "identifier"))
      (g ++ (name ++ ' ' :: 'i' :: 'n' :: 't' :: '\n' :: rest))
      [placed "identifier" true (some "name") before name []] _ :=
    .field (.word "identifier" (by decide) rfl named gap ends_blank text)
  have atType : source.toList = (before ++ name) ++ ' ' :: 'i' :: 'n' :: 't' :: '\n' :: rest := by
    simpa using text
  exact .phrase _ _ rfl rfl rfl rfl (.next (.next declared (.last .nomore))
    (.last (.among List.mem_cons_self (.next (lays_int atType) (.last .none)))))

variable {names : List (List Char)}

section

variable {kind nameKind : String} (lays : LaysSpecs source r kind nameKind)
  (named : ∀ n ∈ names, IsDeclName n)
include lays named

theorem lays_separated (text : source.toList = before ++ specsText names rest) :
    Lays source {} (many (.seq [terminator, r])) ('\n' :: specsText names rest)
      (specTrees kind nameKind before names) ('\n' :: ')' :: '\n' :: rest) := by
  induction names generalizing before with
  | nil => exact .nomore
  | cons name names ih =>
    obtain ⟨isName, namedOthers⟩ := List.forall_mem_cons.1 named
    have first := lays (g := ['\t']) isName (by decide) (at_spec text)
    exact .more (.next (.newline rfl) (.last first)) (ih namedOthers (after_spec text))

theorem lays_ended (gap : Gap g) (text : source.toList = before ++ specsText names rest) :
    ∃ g', Gap g' ∧ Lays source {} (many (.seq [r, terminator])) (g ++ specsText names rest)
      (specTrees kind nameKind before names) (g' ++ ')' :: '\n' :: rest) := by
  -- What is left before the closing bracket is the gap if there is no name, and empty otherwise.
  induction names generalizing before g with
  | nil => exact ⟨g, gap, .nomore⟩
  | cons name names ih =>
    obtain ⟨isName, namedOthers⟩ := List.forall_mem_cons.1 named
    have first := lays isName gap.tab (at_spec text)
    rw [List.append_assoc] at first
    obtain ⟨g', gap', others⟩ := ih namedOthers (g := []) (by decide) (after_spec text)
    exact ⟨g', gap', .more (.next first (.last (.newline rfl))) others⟩

theorem lays_sepEnd (text : source.toList = before ++ specsText names rest) :
    Lays source {} (sepEnd r terminator) ('\n' :: specsText names rest)
      (specTrees kind nameKind before names) ('\n' :: ')' :: '\n' :: rest) := by
  cases names with
  | nil => exact .none
  | cons name names =>
    obtain ⟨isName, namedOthers⟩ := List.forall_mem_cons.1 named
    have first := lays (g := ['\n', '\t']) isName (by decide) (at_spec text)
    have others := lays_separated lays namedOthers (after_spec text)
    have all := first.next (others.next (.last (.none (r := terminator))))
    rw [List.append_nil] at all
    exact .some all

end

section

variable (named : ∀ n ∈ names, IsDeclName n)
include named

theorem lays_types (text : source.toList = before ++ typesText names rest) :
    Lays source {} (ref "_statement") (typesText names rest) [typesTree before names]
      ('\n' :: rest) := by
  have keyword : Lays source {} (lit "type") (typesText names rest) [mark "type" before] _ :=
    .token "type" (g := []) (by decide) rfl (fun _ => ends_blank) text
  have opening : Lays source {} (lit "(") (' ' :: '(' :: '\n' :: specsText names rest)
      [mark "(" (before ++ "type ".toList)] _ :=
    .sign "(" (g := [' ']) (by decide) (by decide) rfl (by simpa [typesText] using text)
  have atSpecs : source.toList = (before ++ "type (\n".toList) ++ specsText names rest := by
    simpa [typesText] using text
  have closing : Lays source {} (lit ")") ('\n' :: ')' :: '\n' :: rest)
      [mark ")" (before ++ "type (\n".toList ++ specLines names)] _ :=
    .sign ")" (g := ['\n']) (by decide) (by decide) rfl
      (by simpa [typesText, specsText_split] using text)
  have group : Lays source {} (oneOf [ref "type_spec", ref "type_alias",
      .seq [lit "(", sepEnd typeSpec terminator, lit ")"]]) _ _ ('\n' :: rest) :=
    .among (by simp) (.next opening (.next (lays_sepEnd laysSpecs_type named atSpecs)
      (.last closing)))
  have declaration : Lays source {} (ref "type_declaration") (typesText names rest)
      [typesTree before names] ('\n' :: rest) :=
    .phrase _ _ rfl rfl rfl rfl (.next keyword (.last group))
  exact .hidden rfl rfl rfl (.among List.mem_cons_self (.hidden rfl rfl rfl
    (.among (by simp) declaration)))

theorem lays_values (text : source.toList = before ++ valuesText names rest) :
    Lays source {} (ref "_statement") (valuesText names rest) [valuesTree before names]
      ('\n' :: rest) := by
  have keyword : Lays source {} (lit "var") (valuesText names rest) [mark "var" before] _ :=
    .token "var" (g := []) (by decide) rfl (fun _ => ends_blank) text
  have opening : Lays source {} (lit "(") (' ' :: '(' :: '\n' :: specsText names rest)
      [mark "(" (before ++ "var ".toList)] _ :=
    .sign "(" (g := [' ']) (by decide) (by decide) rfl (by simpa [valuesText] using text)
  have atSpecs : source.toList = (before ++ "var (\n".toList) ++ specsText names rest := by
    simpa [valuesText] using text
  obtain ⟨g, gap, specs⟩ := lays_ended laysSpecs_var named (g := ['\n']) (by decide) atSpecs
  have closing : Lays source {} (lit ")") (g ++ ')' :: '\n' :: rest)
      [mark ")" (before ++ "var (\n".toList ++ specLines names)] _ :=
    .sign ")" (by decide) gap rfl (by simpa [valuesText, specsText_split] using text)
  have list : Lays source {} (ref "var_spec_list") (' ' :: '(' :: '\n' :: specsText names rest)
      _ _ :=
    .phrase (before ++ "var ".toList) ("(\n".toList ++ specLines names ++ [')']) rfl rfl rfl rfl
      (.next opening (.next specs (.last closing)))
  have declaration : Lays source {} (ref "var_declaration") (valuesText names rest)
      [valuesTree before names] ('\n' :: rest) :=
    .phrase _ _ rfl rfl rfl rfl (.next keyword (.last
      (.among (List.mem_cons_of_mem _ List.mem_cons_self) list)))
  exact .hidden rfl rfl rfl (.among List.mem_cons_self (.hidden rfl rfl rfl
    (.among (by simp) declaration)))

end

end TagIndex.Go

namespace TagIndex
open Grammar Grammar.Phrase Go

variable {source : String} {before rest : List Char}

namespace Sketch

def tree (before : List Char) : Sketch → Tree
  | function false name => functionTree before name.toList
  | function true name => methodTree before name.toList
  | imports => importTree before
  | types names => typesTree before (names.map String.toList)
  | values names => valuesTree before (names.map String.toList)

theorem lays {s : Sketch} (named : ∀ name ∈ s.names, IsDeclName name.toList)
    (text : source.toList = before ++ s.textThen rest) :
    Lays source {} item (s.textThen rest) [s.tree before] rest := by
  have statement {t : Tree}
      (h : Lays source {} (ref "_statement") (s.textThen rest) [t] ('\n' :: rest)) :
      Lays source {} item (s.textThen rest) [t] rest :=
    .among List.mem_cons_self (h.next (.last (.newline rfl)))
  have top {t : Tree}
      (h : Lays source {} (ref "_top_level_declaration") (s.textThen rest) [t] ('\n' :: rest)) :
      Lays source {} item (s.textThen rest) [t] rest :=
    .among (List.mem_cons_of_mem _ List.mem_cons_self) (h.next (.last (.newline rfl)))
  cases s with
  | function hasReceiver name =>
    have isName : IsDeclName name.toList := named name List.mem_cons_self
    cases hasReceiver
    · exact top (lays_function isName text)
    · exact top (lays_method isName text)
  | imports => exact top (lays_import text)
  | types names => exact statement (lays_types (by simpa [Sketch.names] using named) text)
  | values names => exact statement (lays_values (by simpa [Sketch.names] using named) text)

end Sketch

namespace Outline

def treesFrom : List Char → List Sketch → List Tree
  | _, [] => []
  | before, s :: ss => s.tree before :: treesFrom (before ++ Sketch.linesText s.lines) ss

def tree (o : Outline) : Tree :=
  .placed "source_file" true none [] o.text.toList
    (packageTree [] o.package.toList ::
      treesFrom ("package " ++ o.package ++ "\n").toList o.sketches)

theorem lays_sketches {ss : List Sketch}
    (named : ∀ s ∈ ss, ∀ name ∈ s.names, IsDeclName name.toList)
    (text : source.toList = before ++ sketchesText ss) :
    Lays source {} (many item) (sketchesText ss) (treesFrom before ss) [] := by
  induction ss generalizing before with
  | nil => exact .nomore
  | cons s ss ih =>
    obtain ⟨namedFirst, namedOthers⟩ := List.forall_mem_cons.1 named
    have text' : source.toList = (before ++ Sketch.linesText s.lines) ++ sketchesText ss := by
      rw [text, sketchesText, Sketch.textThen_eq, List.append_assoc]
    exact .more (Sketch.lays namedFirst text) (ih namedOthers text')

theorem parsed_tree {o : Outline} (h : o.Declarable) :
    Parsed language "source_file" o.text o.tree := by
  have text : o.text.toList = [] ++ packageText o.package.toList (sketchesText o.sketches) :=
    o.text_eq
  have clause : Lays o.text {} item o.text.toList [packageTree [] o.package.toList]
      (sketchesText o.sketches) := by
    have top := (lays_package h.package text).next (.last (.newline rfl))
    rw [o.text_eq]
    exact .among (List.mem_cons_of_mem _ List.mem_cons_self) top
  have text' : o.text.toList = ("package " ++ o.package ++ "\n").toList ++
      sketchesText o.sketches := by
    simpa [packageText] using text
  have all := (clause.more (lays_sketches h.names text')).next
    (.last (.none (r := ref "_top_level_declaration")))
  rw [List.append_nil] at all
  have file : Lays o.text {} (ref "source_file") o.text.toList [o.tree] [] :=
    .phrase _ _ rfl rfl rfl rfl all
  exact ⟨file.clean o.tree List.mem_cons_self, [], file.parses, .done⟩

end Outline
end TagIndex
