import TagIndex.Proofs.Printing.Lines

/-! Functions and methods without parameters and with empty bodies, each on a line of its own. The
grammar reads no statement there: what begins like a function type or a function literal does not
go on like one. -/

namespace TagIndex.Go
open Grammar Grammar.Phrase Text TagIndex.Tree

variable {source : String} {role : Role} {ts : List Tree} {s' before name rest : List Char}

def signature (rest : List Char) : List Char :=
  '(' :: ')' :: ' ' :: '\x7b' :: '\x7d' :: '\n' :: rest

def functionText (name rest : List Char) : List Char :=
  'f' :: 'u' :: 'n' :: 'c' :: ' ' :: (name ++ signature rest)

def receiverText (rest : List Char) : List Char := '(' :: 'r' :: ' ' :: 'T' :: ')' :: rest

def methodText (name rest : List Char) : List Char :=
  'f' :: 'u' :: 'n' :: 'c' :: ' ' :: receiverText (' ' :: (name ++ signature rest))

theorem ends_signature : Ends (signature rest) := ends_cons (by decide)

theorem closed_signature :
    language.closed (opensAt ['(']) ["type_parameter_list", "block"].contains [] = true := by
  decide

theorem front_signature : Front language source (signature rest) (opensAt ['('])
    ["type_parameter_list", "block"].contains := by
  have solid : Solid (signature rest) := ⟨'(', _, rfl, by decide⟩
  exact .closed (fun l text s' read =>
    opensAt_of_reads (g := []) read ⟨_, rfl⟩ (List.cons_ne_nil _ _) (by decide) solid) (by simp)
    closed_signature

theorem typeEnds_signature : TypeEnds source (signature rest) :=
  .of_front front_signature ends_signature (by decide)

theorem closed_body : language.closed (opensAt ['\x7b'])
    (["identifier", "_type_identifier", "_package_identifier", "generic_type", "qualified_type",
      "_simple_type"] ++ otherTypes.dropLast).contains ["identifier"] = true := by
  decide

theorem front_body : Front language source (' ' :: '\x7b' :: rest) (opensAt ['\x7b'])
    (["identifier", "_type_identifier", "_package_identifier", "generic_type", "qualified_type",
      "_simple_type"] ++ otherTypes.dropLast).contains :=
  front_mark (g := [' ']) closed_body (by decide) (by decide) (by decide)

theorem signature_reads
    (h : Parses language source role (.seq [.field "parameters" (ref "parameter_list"), result,
      .field "body" (opt (ref "block"))]) (signature rest) ts s') :
    s' = '\n' :: rest ∨ s' = ' ' :: '\x7b' :: '\x7d' :: '\n' :: rest := by
  simp only [parses_next, parses_done, parses_field, result] at h
  obtain ⟨_, m, _, parameters, ⟨_, n, _, results, ⟨_, _, _, body, ⟨-, rfl⟩, -⟩, -⟩, -⟩ := h
  obtain ⟨rfl, -⟩ := no_parameters_end (g := []) (by decide) parameters
  obtain rfl : n = ' ' :: '\x7b' :: '\x7d' :: '\n' :: rest :=
    front_body.stay results (by decide)
  obtain block | ⟨-, rfl⟩ := parses_opt.1 body
  · exact .inl (empty_block_ends (g := [' ']) (by decide) block)
  · exact .inr rfl

section

variable (named : IsDeclName name)
include named

theorem front_function_name : Front language source (' ' :: (name ++ signature rest)) opensName
    otherTypes.contains :=
  front_name (g := [' ']) named (by decide) ends_signature

theorem function_declaration_reads (text : source.toList = before ++ functionText name rest)
    (h : Parses language source {} (ref "function_declaration") (functionText name rest) ts s') :
    (∃ t, ts = [t] ∧ Declares source "function_declaration"
      [⟨String.ofList name, before.count '\n' + 1⟩] t) ∧
    (s' = '\n' :: rest ∨ s' = ' ' :: '\x7b' :: '\x7d' :: '\n' :: rest) := by
  obtain ⟨t, rfl, -, shows, between, body⟩ := (parses_shown rfl rfl rfl).1 h
  have phrase : IsPhrase source "function_declaration" t := ⟨between, _, rfl, rfl, body.derives⟩
  have isKind : t.kind = "function_declaration" := shows.kind
  obtain ⟨_, m, _, keyword, afterKeyword, parts⟩ := parses_next.1 (parses_prec.1 body)
  obtain ⟨_, k, _, declared, afterName, rfl⟩ := parses_next.1 afterKeyword
  obtain ⟨_, j, _, parameters, afterTypes, rfl⟩ := parses_next.1 afterName
  obtain ⟨rfl, w, rfl, -, shown⟩ :=
    lit_ends [] (' ' :: (name ++ signature rest)) (by decide) (by decide) keyword
  obtain ⟨rfl, n, rfl, -, -, -, field, stands⟩ :=
    name_ends "identifier" (g := [' ']) (by decide) rfl named (by decide) ends_signature
      (parses_field.1 declared)
  obtain rfl : j = signature rest := front_signature.stay parameters (by decide)
  refine ⟨⟨t, rfl, shows.named, isKind, phrase, fun clean => ?_⟩, signature_reads afterTypes⟩
  have node : t.nameNode? = some n :=
    nameNode?_of_parts [w] phrase clean parts (by simp [shown.field]) field
  have ident := ident_of_stands (before ++ "func ".toList)
    (by simpa [functionText] using text) stands
  have own : t.ownNames = [n] := by simp [ownNames, isKind, node]
  rw [own, mapM_eq_ok_iff]
  simpa using ident

theorem method_declaration_reads (text : source.toList = before ++ methodText name rest)
    (h : Parses language source {} (ref "method_declaration") (methodText name rest) ts s') :
    (∃ t, ts = [t] ∧ Declares source "method_declaration"
      [⟨String.ofList name, before.count '\n' + 1⟩] t) ∧
    (s' = '\n' :: rest ∨ s' = ' ' :: '\x7b' :: '\x7d' :: '\n' :: rest) := by
  obtain ⟨t, rfl, -, shows, between, body⟩ := (parses_shown rfl rfl rfl).1 h
  have phrase : IsPhrase source "method_declaration" t := ⟨between, _, rfl, rfl, body.derives⟩
  have isKind : t.kind = "method_declaration" := shows.kind
  obtain ⟨_, m, _, keyword, afterKeyword, parts⟩ := parses_next.1 (parses_prec.1 body)
  obtain ⟨_, k, _, receiver, afterReceiver, rfl⟩ := parses_next.1 afterKeyword
  obtain ⟨_, j, _, declared, afterName, rfl⟩ := parses_next.1 afterReceiver
  obtain ⟨rfl, w, rfl, -, shown⟩ :=
    lit_ends [] (' ' :: receiverText (' ' :: (name ++ signature rest))) (by decide) (by decide)
      keyword
  obtain ⟨rfl, p, rfl, -, given⟩ := receiver_ends (g := [' ']) (by decide) (parses_field.1 receiver)
  obtain ⟨rfl, n, rfl, -, -, -, field, stands⟩ :=
    name_ends "field_identifier" (g := [' ']) (by decide) rfl named (by decide) ends_signature
      (parses_field.1 declared)
  refine ⟨⟨t, rfl, shows.named, isKind, phrase, fun clean => ?_⟩, signature_reads afterName⟩
  have node : t.nameNode? = some n :=
    nameNode?_of_parts [w, p] phrase clean parts (by simp [shown.field, given.field])
      field
  have ident := ident_of_stands (before ++ "func (r T) ".toList)
    (by simpa [methodText, receiverText] using text) stands
  have own : t.ownNames = [n] := by simp [ownNames, isKind, node]
  rw [own, mapM_eq_ok_iff]
  simpa using ident

theorem not_parameters_at_name {f : String} {rs : List Phrase} :
    ¬ Parses language source role (.seq (lit "func" :: .field f (ref "parameter_list") :: rs))
      (functionText name rest) ts s' := by
  intro h
  obtain ⟨_, m, _, keyword, afterKeyword, -⟩ := parses_next.1 h
  obtain ⟨_, _, _, parameters, -, -⟩ := parses_next.1 afterKeyword
  obtain ⟨rfl, -⟩ := lit_ends [] (' ' :: (name ++ signature rest)) (by decide) (by decide) keyword
  exact (front_function_name named).misses "parameter_list" rfl _ _ _ (parses_field.1 parameters)

omit named in
theorem closed_function : language.closed (opensAt "func ".toList)
    (allBut ["function_declaration", "_top_level_declaration", "source_file"])
    ["identifier", "func_literal", "function_type", "method_declaration"] = true := by
  decide

theorem front_function : Front language source (functionText name rest) (opensAt "func ".toList)
    (allBut ["function_declaration", "_top_level_declaration", "source_file"]) := by
  have solid : Solid (functionText name rest) := ⟨'f', _, rfl, by decide⟩
  refine .closed (fun l text s' read =>
    opensAt_of_reads (g := []) read ⟨_, rfl⟩ (by decide) (by decide) solid) ?_ closed_function
  simp only [List.mem_cons, List.not_mem_nil, or_false]
  -- These four begin with the keyword too, or with a word, and fail only later.
  rintro _ (rfl | rfl | rfl | rfl) role ts s' h
  · exact not_identifier_keyword "func".toList (g := []) (by decide) (by decide) ends_blank h
  · obtain ⟨_, -, -, -, -, body⟩ := (parses_shown rfl rfl rfl).1 h
    exact not_parameters_at_name named body
  · obtain ⟨_, -, -, -, -, body⟩ := (parses_shown rfl rfl rfl).1 h
    exact not_parameters_at_name named (parses_prec.1 body)
  · obtain ⟨_, -, -, -, -, body⟩ := (parses_shown rfl rfl rfl).1 h
    exact not_parameters_at_name named (parses_prec.1 body)

omit named in
theorem closed_func_types : language.closed (opensAt "func ".toList)
    ["identifier", "_type_identifier", "_package_identifier", "generic_type", "qualified_type",
      "pointer_type", "struct_type", "interface_type", "array_type", "slice_type", "map_type",
      "channel_type", "negated_type", "parenthesized_type"].contains ["identifier"] = true := by
  decide

omit named in
theorem front_func_types : Front language source (methodText name rest) (opensAt "func ".toList)
    ["identifier", "_type_identifier", "_package_identifier", "generic_type", "qualified_type",
      "pointer_type", "struct_type", "interface_type", "array_type", "slice_type", "map_type",
      "channel_type", "negated_type", "parenthesized_type"].contains :=
  front_keyword "func".toList (by decide) closed_func_types

/-- After the receiver the name may be read as a result. -/
def AfterType (name rest s' : List Char) : Prop :=
  s' = ' ' :: (name ++ signature rest) ∨ s' = signature rest

theorem result_reads
    (h : Parses language source role result (' ' :: (name ++ signature rest)) ts s')
    (unnamed : role.aliasName = none) : AfterType name rest s' := by
  rw [result, parses_field, parses_opt, parses_oneOf] at h
  simp only [List.mem_cons, List.not_mem_nil, or_false] at h
  obtain ⟨_, rfl | rfl, h⟩ | ⟨-, rfl⟩ := h
  · exact ((front_function_name named).misses "parameter_list" rfl _ _ _ h).elim
  · have unaliased : (role.within ⟨none, some "result"⟩).aliasName = none := by
      simp [Role.within, unnamed]
    exact .inr (simple_type_ends (g := [' ']) unaliased named (by decide) typeEnds_signature h)
  · exact .inl rfl

theorem function_type_reads
    (h : Parses language source role (ref "function_type") (methodText name rest) ts s') :
    AfterType name rest s' := by
  obtain ⟨_, -, -, -, -, body⟩ := (parses_shown rfl rfl rfl).1 h
  obtain ⟨_, m, _, keyword, afterKeyword, -⟩ := parses_next.1 (parses_prec.1 body)
  obtain ⟨_, k, _, receiver, afterReceiver, -⟩ := parses_next.1 afterKeyword
  obtain ⟨_, j, _, results, done, -⟩ := parses_next.1 afterReceiver
  obtain ⟨rfl, -⟩ :=
    lit_ends [] (' ' :: receiverText (' ' :: (name ++ signature rest))) (by decide) (by decide)
      keyword
  obtain ⟨rfl, -⟩ := receiver_ends (g := [' ']) (by decide) (parses_field.1 receiver)
  obtain ⟨-, rfl⟩ := parses_done.1 done
  exact result_reads named results rfl

theorem type_reads (unnamed : role.aliasName = none)
    (h : Parses language source role (ref "_type") (methodText name rest) ts s') :
    AfterType name rest s' := by
  have simple : Parses language source role (ref "_simple_type") (methodText name rest) ts s' :=
    front_func_types.only 0 ((parses_hidden rfl rfl unnamed).1 h) rfl (by decide)
  have function : Parses language source role (ref "function_type") (methodText name rest) ts s' :=
    front_func_types.only 10 ((parses_hidden rfl rfl unnamed).1 simple) rfl (by decide)
  exact function_type_reads named function

theorem not_func_literal :
    ¬ Parses language source role (ref "func_literal") (methodText name rest) ts s' := by
  intro h
  obtain ⟨_, -, -, -, -, body⟩ := (parses_shown rfl rfl rfl).1 h
  obtain ⟨_, m, _, keyword, afterKeyword, -⟩ := parses_next.1 body
  obtain ⟨_, k, _, receiver, afterReceiver, -⟩ := parses_next.1 afterKeyword
  obtain ⟨_, j, _, results, afterResult, -⟩ := parses_next.1 afterReceiver
  obtain ⟨_, _, _, block, -, -⟩ := parses_next.1 afterResult
  obtain ⟨rfl, -⟩ := lit_ends [] (' ' :: receiverText (' ' :: (name ++ signature rest)))
    (by decide) (by decide) keyword
  obtain ⟨rfl, -⟩ := receiver_ends (g := [' ']) (by decide) (parses_field.1 receiver)
  obtain rfl | rfl := result_reads named results rfl
  · exact (front_function_name named).misses "block" rfl _ _ _ (parses_field.1 block)
  · exact front_signature.misses "block" rfl _ _ _ (parses_field.1 block)

theorem not_type_conversion : ¬ Parses language source role (ref "type_conversion_expression")
    (methodText name rest) ts s' := by
  intro h
  obtain ⟨_, -, -, -, -, body⟩ := (parses_shown rfl rfl rfl).1 h
  obtain ⟨_, m, _, type, afterType, -⟩ := parses_next.1 (parses_weigh.1 body)
  obtain ⟨_, k, _, opening, afterOpening, -⟩ := parses_next.1 afterType
  obtain ⟨_, _, _, operand, -, -⟩ := parses_next.1 afterOpening
  obtain rfl | rfl := type_reads named rfl (parses_field.1 type)
  · exact (front_function_name named).miss opening (by decide)
  -- The conversion of a function type with the name as result: its operand would be empty.
  · obtain ⟨rfl, -⟩ := lit_ends [] (signature rest).tail (by decide) (by decide) opening
    have front : Front language source (signature rest).tail (opensAt [')'])
        (allBut ["source_file"]) := front_paren (g := []) (by decide)
    exact front.misses "_expression" rfl _ _ _ (parses_field.1 operand)

theorem not_type_instantiation : ¬ Parses language source role
    (ref "type_instantiation_expression") (methodText name rest) ts s' := by
  intro h
  obtain ⟨_, -, -, -, -, body⟩ := (parses_shown rfl rfl rfl).1 h
  obtain ⟨_, m, _, type, afterType, -⟩ := parses_next.1 (parses_weigh.1 body)
  obtain ⟨_, k, _, opening, -, -⟩ := parses_next.1 afterType
  obtain rfl | rfl := type_reads named rfl (parses_field.1 type)
  · exact (front_function_name named).miss opening (by decide)
  · exact front_signature.miss opening (by decide)

omit named in
theorem not_function_declaration : ¬ Parses language source role (ref "function_declaration")
    (methodText name rest) ts s' := by
  intro h
  obtain ⟨_, -, -, -, -, body⟩ := (parses_shown rfl rfl rfl).1 h
  obtain ⟨_, m, _, keyword, afterKeyword, -⟩ := parses_next.1 (parses_prec.1 body)
  obtain ⟨_, _, _, declared, -, -⟩ := parses_next.1 afterKeyword
  obtain ⟨rfl, -⟩ := lit_ends [] (' ' :: receiverText (' ' :: (name ++ signature rest)))
    (by decide) (by decide) keyword
  exact not_identifier_at (g := [' ']) (by decide) (by decide) (by decide)
    (parses_field.1 declared)

omit named in
theorem closed_method : language.closed (opensAt "func ".toList)
    (allBut ["method_declaration", "_top_level_declaration", "source_file", "function_type",
      "_simple_type", "_type", "type_elem", "_interface_elem", "parameter_declaration"])
    ["identifier", "func_literal", "type_conversion_expression", "type_instantiation_expression",
      "function_declaration"] = true := by
  decide

theorem front_method : Front language source (methodText name rest) (opensAt "func ".toList)
    (allBut ["method_declaration", "_top_level_declaration", "source_file", "function_type",
      "_simple_type", "_type", "type_elem", "_interface_elem", "parameter_declaration"]) := by
  have solid : Solid (methodText name rest) := ⟨'f', _, rfl, by decide⟩
  refine .closed (fun l text s' read =>
    opensAt_of_reads (g := []) read ⟨_, rfl⟩ (by decide) (by decide) solid) ?_ closed_method
  simp only [List.mem_cons, List.not_mem_nil, or_false]
  rintro _ (rfl | rfl | rfl | rfl | rfl) role ts s' h
  · exact not_identifier_keyword "func".toList (g := []) (by decide) (by decide) ends_blank h
  · exact not_func_literal named h
  · exact not_type_conversion named h
  · exact not_type_instantiation named h
  · exact not_function_declaration h

theorem function_line (text : source.toList = before ++ functionText name rest) :
    Line source "function_declaration" [⟨String.ofList name, before.count '\n' + 1⟩]
      (functionText name rest) rest := by
  refine .of_top ⟨'f', _, rfl, by decide⟩ nofun (front_function named) rfl fun ts s' h => ?_
  have declaration :=
    (front_function named).only 1 ((parses_hidden rfl rfl rfl).1 h) rfl (by decide)
  obtain ⟨declares, stop⟩ := function_declaration_reads named text declaration
  exact ⟨declares, stop⟩

theorem method_line (text : source.toList = before ++ methodText name rest) :
    Line source "method_declaration" [⟨String.ofList name, before.count '\n' + 1⟩]
      (methodText name rest) rest := by
  refine .of_top ⟨'f', _, rfl, by decide⟩ nofun (front_method named) rfl fun ts s' h => ?_
  have declaration :=
    (front_method named).only 2 ((parses_hidden rfl rfl rfl).1 h) rfl (by decide)
  obtain ⟨declares, stop⟩ := method_declaration_reads named text declaration
  exact ⟨declares, stop⟩

end

end TagIndex.Go
