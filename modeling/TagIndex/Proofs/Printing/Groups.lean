import TagIndex.Proofs.Printing.Lines

/-! Groups of types and of variables, with one specification on each line. -/

namespace TagIndex.Go
open Grammar Grammar.Phrase Text TagIndex.Tree

variable {source : String} {role : Role} {r : Phrase} {ts us : List Tree}
  {g s s' m k before name rest : List Char} {names : List (List Char)}

/-- The lines of a group and what comes after it. -/
def specsText : List (List Char) → List Char → List Char
  | [], rest => ')' :: '\n' :: rest
  | name :: names, rest =>
    '\t' :: (name ++ ' ' :: 'i' :: 'n' :: 't' :: '\n' :: specsText names rest)

def specLines (names : List (List Char)) : List Char :=
  names.flatMap fun name => '\t' :: (name ++ " int\n".toList)

def typesText (names : List (List Char)) (rest : List Char) : List Char :=
  't' :: 'y' :: 'p' :: 'e' :: ' ' :: '(' :: '\n' :: specsText names rest

def valuesText (names : List (List Char)) (rest : List Char) : List Char :=
  'v' :: 'a' :: 'r' :: ' ' :: '(' :: '\n' :: specsText names rest

def listed : Nat → List (List Char) → List Ident
  | _, [] => []
  | line, name :: names => ⟨String.ofList name, line⟩ :: listed (line + 1) names

structure Specifies (source : String) (kinds : List String) (own : Tree → List Tree) (t : Tree)
    (name : Ident) : Prop where
  named : t.named = true
  kind : t.kind ∈ kinds
  own : t.Clean → (own t).mapM (·.ident source) = .ok [name]

theorem specsText_split (names : List (List Char)) (rest : List Char) :
    specsText names rest = specLines names ++ ')' :: '\n' :: rest := by
  induction names with
  | nil => rfl
  | cons name names ih => simp [specsText, specLines, ih]

theorem at_spec (text : source.toList = before ++ specsText (name :: names) rest) :
    source.toList = (before ++ ['\t']) ++
      (name ++ ' ' :: 'i' :: 'n' :: 't' :: '\n' :: specsText names rest) := by
  simpa [specsText] using text

theorem after_spec (text : source.toList = before ++ specsText (name :: names) rest) :
    source.toList = (before ++ specLines [name]) ++ specsText names rest := by
  simpa [specsText, specLines] using text

theorem count_spec (named : IsDeclName name) :
    (before ++ specLines [name]).count '\n' = before.count '\n' + 1 := by
  have flat : name.count '\n' = 0 := List.count_eq_zero.2 named.flat
  simp [specLines, flat]

theorem named_int : IsDeclName ['i', 'n', 't'] := ⟨by decide, by decide +kernel⟩

theorem front_int : Front language source (' ' :: 'i' :: 'n' :: 't' :: '\n' :: rest) opensName
    otherTypes.contains :=
  front_name (g := [' ']) named_int (by decide) ends_newline

structure SpecEnds (source : String) (s : List Char) : Prop where
  type : TypeEnds source s
  equals : ∀ role ts s', ¬ Parses language source role (lit "=") s ts s'

theorem specEnds (named : ∀ n ∈ names, IsDeclName n) :
    SpecEnds source ('\n' :: specsText names rest) := by
  cases names with
  | nil =>
    have front : Front language source ('\n' :: ')' :: '\n' :: rest) (opensAt [')'])
        (allBut ["source_file"]) := front_paren (g := ['\n']) (by decide)
    exact ⟨.of_front front ends_newline (by decide),
      fun _ _ _ h => front.miss h (by decide)⟩
  | cons name names =>
    have front : Front language source ('\n' :: specsText (name :: names) rest) opensName
        otherTypes.contains :=
      front_name (g := ['\n', '\t']) (named name List.mem_cons_self) (by decide) ends_blank
    exact ⟨.of_front front ends_newline (by decide),
      fun _ _ _ h => front.miss h (by decide)⟩

theorem int_ends (unnamed : role.aliasName = none) (ends : SpecEnds source ('\n' :: rest))
    (h : Parses language source role (ref "_type") (' ' :: 'i' :: 'n' :: 't' :: '\n' :: rest)
      ts s') :
    s' = '\n' :: rest :=
  type_ends (g := [' ']) unnamed named_int (by decide) ends.type h

def typeSpec : Phrase := oneOf [ref "type_spec", ref "type_alias"]

theorem type_spec_reads (named : IsDeclName name) (gap : Gap g)
    (ends : SpecEnds source ('\n' :: rest))
    (text : source.toList = before ++ (name ++ ' ' :: 'i' :: 'n' :: 't' :: '\n' :: rest))
    (h : Parses language source {} typeSpec
      (g ++ (name ++ ' ' :: 'i' :: 'n' :: 't' :: '\n' :: rest)) ts s') :
    s' = '\n' :: rest ∧ ∃ t, ts = [t] ∧ Specifies source ["type_spec", "type_alias"]
      (fun t => t.nameNode?.toList) t ⟨String.ofList name, before.count '\n' + 1⟩ := by
  simp only [typeSpec, parses_oneOf, List.mem_cons, List.not_mem_nil, or_false] at h
  obtain ⟨_, rfl | rfl, h⟩ := h
  · obtain ⟨t, rfl, -, shows, between, body⟩ := (parses_shown rfl rfl rfl).1 h
    have phrase : IsPhrase source "type_spec" t := ⟨between, _, rfl, rfl, body.derives⟩
    have isKind : t.kind = "type_spec" := shows.kind
    obtain ⟨_, m, _, declared, afterName, parts⟩ := parses_next.1 body
    obtain ⟨_, k, _, parameters, afterParameters, rfl⟩ := parses_next.1 afterName
    obtain ⟨_, j, _, type, done, rfl⟩ := parses_next.1 afterParameters
    obtain ⟨-, rfl⟩ := parses_done.1 done
    obtain ⟨rfl, n, rfl, -, -, -, field, stands⟩ :=
      name_ends "type_identifier" (by decide) rfl named gap ends_blank (parses_field.1 declared)
    obtain rfl := front_int.stay parameters (by decide)
    have stop : s' = '\n' :: rest := int_ends rfl ends (parses_field.1 type)
    refine ⟨stop, t, rfl, shows.named, by simp [isKind], fun clean => ?_⟩
    have node : t.nameNode? = some n := nameNode?_of_parts [] phrase clean parts (by simp) field
    have ident := ident_of_stands before text stands
    rw [node, mapM_eq_ok_iff]
    simpa using ident
  -- An alias needs an equals sign after the name.
  · obtain ⟨_, -, -, -, -, body⟩ := (parses_shown rfl rfl rfl).1 h
    obtain ⟨_, m, _, declared, afterName, -⟩ := parses_next.1 body
    obtain ⟨_, k, _, parameters, afterParameters, -⟩ := parses_next.1 afterName
    obtain ⟨_, _, _, equals, -, -⟩ := parses_next.1 afterParameters
    obtain ⟨rfl, -⟩ :=
      name_ends "type_identifier" (by decide) rfl named gap ends_blank (parses_field.1 declared)
    obtain rfl := front_int.stay parameters (by decide)
    exact (front_int.miss equals (by decide)).elim

theorem field_ne_name {rule : String} {c : Tree} (other : role.field ≠ some "name")
    (h : Parses language source role (ref rule) s ts s') (mem : c ∈ ts) :
    c.field ≠ some "name" := by
  intro field
  obtain ⟨place, listed, comes⟩ := h.derives.comesFrom c mem
  obtain rfl : place = ({}, .rule rule) := by simpa [ref, Rule.places] using listed
  exact other (comes.field_eq hidden_field field)

theorem var_spec_reads (named : IsDeclName name) (gap : Gap g)
    (ends : SpecEnds source ('\n' :: rest))
    (text : source.toList = before ++ (name ++ ' ' :: 'i' :: 'n' :: 't' :: '\n' :: rest))
    (h : Parses language source {} (ref "var_spec")
      (g ++ (name ++ ' ' :: 'i' :: 'n' :: 't' :: '\n' :: rest)) ts s') :
    s' = '\n' :: rest ∧ ∃ t, ts = [t] ∧ Specifies source ["var_spec"] listedNames t
      ⟨String.ofList name, before.count '\n' + 1⟩ := by
  obtain ⟨t, rfl, -, shows, between, body⟩ := (parses_shown rfl rfl rfl).1 h
  have phrase : IsPhrase source "var_spec" t := ⟨between, _, rfl, rfl, body.derives⟩
  have isKind : t.kind = "var_spec" := shows.kind
  obtain ⟨_, m, _, declared, afterNames, parts⟩ := parses_next.1 body
  obtain ⟨_, k, _, typed, done, rfl⟩ := parses_next.1 afterNames
  obtain ⟨rfl, rfl⟩ := parses_done.1 done
  obtain ⟨_, j, _, first, afterFirst, rfl⟩ := parses_next.1 declared
  obtain ⟨_, i, _, others, done, rfl⟩ := parses_next.1 afterFirst
  obtain ⟨rfl, rfl⟩ := parses_done.1 done
  obtain ⟨rfl, n, rfl, -, -, isNamed, field, stands⟩ :=
    name_ends "identifier" (by decide) rfl named gap ends_blank (parses_field.1 first)
  obtain ⟨rfl, rfl⟩ | ⟨_, _, _, more, -, -⟩ := parses_many.1 others
  swap
  · exact (front_int.miss more (by decide)).elim
  simp only [parses_oneOf, List.mem_cons, List.not_mem_nil, or_false] at typed
  obtain ⟨_, rfl | rfl, typed⟩ := typed
  swap
  · obtain ⟨_, _, _, equals, -, -⟩ := parses_next.1 typed
    exact (front_int.miss equals (by decide)).elim
  obtain ⟨types, j, _, type, afterType, rfl⟩ := parses_next.1 typed
  obtain ⟨_, i, _, value, done, rfl⟩ := parses_next.1 afterType
  obtain ⟨rfl, rfl⟩ := parses_done.1 done
  obtain rfl : j = '\n' :: rest := int_ends rfl ends (parses_field.1 type)
  obtain value | ⟨rfl, rfl⟩ := parses_opt.1 value
  · obtain ⟨_, _, _, equals, -, -⟩ := parses_next.1 value
    exact (ends.equals _ _ _ equals).elim
  refine ⟨rfl, t, rfl, shows.named, by simp [isKind], fun clean => ?_⟩
  have none : types.filter (fun c => c.field == some "name" && c.named) = [] := by
    rw [List.filter_eq_nil_iff]
    intro c mem
    have other : c.field ≠ some "name" :=
      field_ne_name (by simp [Role.within]) (parses_field.1 type) mem
    simp [other]
  have own : t.listedNames = [n] := by
    rw [listedNames, filter_children phrase clean _ (by simp +contextual), parts]
    have field : n.field = some "name" := field
    simp [none, field, isNamed]
  have ident := ident_of_stands before text stands
  rw [own, mapM_eq_ok_iff]
  simpa using ident

structure IsSpec (source : String) (r : Phrase) (kinds : List String) (own : Tree → List Tree) :
    Prop where
  reads : ∀ {g before name rest : List Char} {ts : List Tree} {s' : List Char}, IsDeclName name →
    Gap g → SpecEnds source ('\n' :: rest) →
    source.toList = before ++ (name ++ ' ' :: 'i' :: 'n' :: 't' :: '\n' :: rest) →
    Parses language source {} r (g ++ (name ++ ' ' :: 'i' :: 'n' :: 't' :: '\n' :: rest)) ts s' →
      s' = '\n' :: rest ∧ ∃ t, ts = [t] ∧
        Specifies source kinds own t ⟨String.ofList name, before.count '\n' + 1⟩
  shut : (r.starts (Leaf.isOpen (opensAt [')']) (allBut ["source_file"])) || r.blankable) = false

theorem isSpec_type : IsSpec source typeSpec ["type_spec", "type_alias"]
    (fun t => t.nameNode?.toList) where
  reads := type_spec_reads
  shut := by decide

theorem isSpec_var : IsSpec source (ref "var_spec") ["var_spec"] listedNames where
  reads := var_spec_reads
  shut := by decide

section

variable {kinds : List String} {own : Tree → List Tree} {ahead : List Char → Prop} {line : Nat}

theorem Gap.tab (gap : Gap g) : Gap (g ++ ['\t']) := by
  simpa [Gap, or_imp, forall_and] using And.intro gap (by decide : IsBlank '\t')

theorem IsSpec.next (spec : IsSpec source r kinds own) (named : ∀ n ∈ names, IsDeclName n)
    (gap : Gap g) (text : source.toList = before ++ specsText names rest)
    (h : Parses language source {} r (g ++ specsText names rest) ts s') :
    ∃ name left t, names = name :: left ∧ s' = '\n' :: specsText left rest ∧ ts = [t] ∧
      Specifies source kinds own t ⟨String.ofList name, before.count '\n' + 1⟩ := by
  cases names with
  | nil => exact ((front_paren gap).miss h spec.shut).elim
  | cons name left =>
    obtain ⟨first, others⟩ := List.forall_mem_cons.1 named
    have h' : Parses language source {} r
        ((g ++ ['\t']) ++ (name ++ ' ' :: 'i' :: 'n' :: 't' :: '\n' :: specsText left rest))
        ts s' := by
      simpa [specsText] using h
    obtain ⟨rfl, t, rfl, specifies⟩ := spec.reads first gap.tab (specEnds others) (at_spec text) h'
    exact ⟨name, left, t, rfl, rfl, rfl, by simpa using specifies⟩

theorem specs_terminator (named : ∀ n ∈ names, IsDeclName n)
    (h : Parses language source {} terminator ('\n' :: specsText names rest) ts s') :
    s' = specsText names rest ∧ ∀ t ∈ ts, t.named = false := by
  cases names with
  | nil =>
    have solid : Solid (specsText [] rest) := ⟨')', _, rfl, by decide⟩
    exact terminator_ends (g := []) (by decide) (by decide) solid.stops (by simp)
      (fun _ => rfl) rfl h
  | cons name names =>
    have matched : identifier.Matches name := (named name List.mem_cons_self).identifier
    have solid : Solid (name ++ ' ' :: 'i' :: 'n' :: 't' :: '\n' :: specsText names rest) :=
      (solid_of_identifier matched).append _
    refine terminator_ends (g := ['\t']) (by decide) (by decide) solid.stops ?_
      (fun empty => absurd empty solid.ne_nil) rfl h
    obtain ⟨c, tail, rfl, start, -⟩ := identifier_matches_iff.1 matched
    rintro more split
    obtain ⟨rfl, -⟩ := List.cons.inj split
    exact absurd start (by decide)

theorem filter_unnamed (unnamed : ∀ t ∈ us, t.named = false) : us.filter (·.named) = [] := by
  simpa [List.filter_eq_nil_iff] using unnamed

def TakesOne (source : String) (kinds : List String) (own : Tree → List Tree)
    (ahead : List Char → Prop) (line : Nat) (names : List (List Char)) (rest : List Char)
    (ts : List Tree) (s' : List Char) : Prop :=
  ∃ name left g t, names = name :: left ∧ ahead g ∧ s' = g ++ specsText left rest ∧
    ts.filter (·.named) = [t] ∧ Specifies source kinds own t ⟨String.ofList name, line⟩

def Takes (source : String) (kinds : List String) (own : Tree → List Tree)
    (ahead : List Char → Prop) (line : Nat) (names : List (List Char)) (rest : List Char)
    (ts : List Tree) (s' : List Char) : Prop :=
  ∃ taken left g, names = taken ++ left ∧ ahead g ∧ s' = g ++ specsText left rest ∧
    List.Forall₂ (Specifies source kinds own) (ts.filter (·.named)) (listed line taken)

theorem Takes.none (isAhead : ahead g) (unnamed : ∀ t ∈ ts, t.named = false) :
    Takes source kinds own ahead line names rest ts (g ++ specsText names rest) := by
  refine ⟨[], names, g, rfl, isAhead, rfl, ?_⟩
  rw [filter_unnamed unnamed]
  exact .nil

theorem Takes.more {t : Tree} (only : ts.filter (·.named) = [t])
    (specifies : Specifies source kinds own t ⟨String.ofList name, line⟩)
    (more : Takes source kinds own ahead (line + 1) names rest us s') :
    Takes source kinds own ahead line (name :: names) rest (ts ++ us) s' := by
  obtain ⟨taken, left, g, rfl, isAhead, rfl, further⟩ := more
  refine ⟨name :: taken, left, g, rfl, isAhead, rfl, ?_⟩
  rw [List.filter_append, only, List.singleton_append, listed]
  exact .cons specifies further

theorem takes_of_many {item : Phrase}
    (step : ∀ {before names g ts s'}, (∀ n ∈ names, IsDeclName n) → ahead g →
      source.toList = before ++ specsText names rest →
      Parses language source {} item (g ++ specsText names rest) ts s' →
        TakesOne source kinds own ahead (before.count '\n' + 1) names rest ts s')
    (named : ∀ n ∈ names, IsDeclName n) (isAhead : ahead g)
    (text : source.toList = before ++ specsText names rest)
    (h : Parses language source {} (many item) (g ++ specsText names rest) ts s') :
    Takes source kinds own ahead (before.count '\n' + 1) names rest ts s' := by
  induction names generalizing before g ts with
  | nil =>
    obtain ⟨rfl, rfl⟩ | ⟨_, _, _, first, -, -⟩ := parses_many.1 h
    · exact .none isAhead (by simp)
    · obtain ⟨_, _, _, _, none, -⟩ := step named isAhead text first
      cases none
  | cons name names ih =>
    obtain ⟨rfl, rfl⟩ | ⟨_, m, _, first, others, rfl⟩ := parses_many.1 h
    · exact .none isAhead (by simp)
    · obtain ⟨_, left, g', t, same, isAhead', rfl, only, specifies⟩ := step named isAhead text first
      obtain ⟨rfl, rfl⟩ := List.cons.inj same
      obtain ⟨isName, namedOthers⟩ := List.forall_mem_cons.1 named
      have further := ih namedOthers isAhead' (after_spec text) others
      rw [count_spec isName] at further
      exact .more only specifies further

theorem Takes.close (takes : Takes source kinds own ahead line names rest ts m)
    (gap : ∀ g, ahead g → Gap g) (named : ∀ n ∈ names, IsDeclName n)
    (h : Parses language source role (lit ")") m us s') :
    s' = '\n' :: rest ∧ List.Forall₂ (Specifies source kinds own) (ts.filter (·.named))
      (listed line names) ∧ ∃ t, us = [t] ∧ t.belongs = true ∧ Shows t ")" false role := by
  obtain ⟨taken, left, g, rfl, isAhead, rfl, specifies⟩ := takes
  -- Where a name is left, no group can be closed.
  cases left with
  | nil =>
    obtain ⟨rfl, closing⟩ := lit_ends g ('\n' :: rest) (by decide) (gap g isAhead) h
    exact ⟨rfl, by simpa using specifies, closing⟩
  | cons name left =>
    have front : Front language source
        ((g ++ ['\t']) ++ (name ++ ' ' :: 'i' :: 'n' :: 't' :: '\n' :: specsText left rest))
        opensName otherTypes.contains :=
      front_name (named name (by simp)) (gap g isAhead).tab ends_blank
    rw [List.append_assoc] at front
    exact (front.miss h (by decide)).elim

/-- A group takes all its specifications, whatever stands between them. -/
theorem group_reads {inner : Phrase} (named : ∀ n ∈ names, IsDeclName n)
    (takes : ∀ {us m}, Parses language source {} inner ('\n' :: specsText names rest) us m →
      Takes source kinds own Gap line names rest us m)
    (h : Parses language source {} (.seq [lit "(", inner, lit ")"])
      (' ' :: '(' :: '\n' :: specsText names rest) ts s') :
    s' = '\n' :: rest ∧
      List.Forall₂ (Specifies source kinds own) (ts.filter (·.named)) (listed line names) := by
  obtain ⟨_, m, _, opening, afterOpening, rfl⟩ := parses_next.1 h
  obtain ⟨us, k, _, specified, afterSpecs, rfl⟩ := parses_next.1 afterOpening
  obtain ⟨_, j, _, closing, done, rfl⟩ := parses_next.1 afterSpecs
  obtain ⟨rfl, rfl⟩ := parses_done.1 done
  obtain ⟨rfl, o, rfl, -, opened⟩ :=
    lit_ends [' '] ('\n' :: specsText names rest) (by decide) (by decide) opening
  obtain ⟨rfl, specifies, c, rfl, -, closed⟩ := (takes specified).close (fun _ => id) named closing
  exact ⟨rfl, by simpa [opened.named, closed.named] using specifies⟩

variable (spec : IsSpec source r kinds own)
include spec

theorem IsSpec.separated (named : ∀ n ∈ names, IsDeclName n)
    (text : source.toList = before ++ specsText names rest)
    (h : Parses language source {} (many (.seq [terminator, r])) ('\n' :: specsText names rest)
      ts s') :
    Takes source kinds own (· = ['\n']) (before.count '\n' + 1) names rest ts s' := by
  refine takes_of_many ?_ named rfl text h
  rintro before names _ ts s' named rfl text h
  obtain ⟨us, m, _, ended, afterEnd, rfl⟩ := parses_next.1 h
  obtain ⟨_, _, _, specified, done, rfl⟩ := parses_next.1 afterEnd
  obtain ⟨rfl, rfl⟩ := parses_done.1 done
  obtain ⟨rfl, unnamed⟩ := specs_terminator named ended
  obtain ⟨name, left, t, rfl, rfl, rfl, specifies⟩ :=
    spec.next (g := []) named (by decide) text specified
  exact ⟨name, left, ['\n'], t, rfl, rfl, rfl,
    by simp [filter_unnamed unnamed, specifies.named], specifies⟩

theorem IsSpec.ended (named : ∀ n ∈ names, IsDeclName n) (gap : Gap g)
    (text : source.toList = before ++ specsText names rest)
    (h : Parses language source {} (many (.seq [r, terminator])) (g ++ specsText names rest)
      ts s') : Takes source kinds own Gap (before.count '\n' + 1) names rest ts s' := by
  refine takes_of_many ?_ named gap text h
  intro before names g ts s' named gap text h
  obtain ⟨_, m, _, specified, afterSpec, rfl⟩ := parses_next.1 h
  obtain ⟨us, _, _, ended, done, rfl⟩ := parses_next.1 afterSpec
  obtain ⟨rfl, rfl⟩ := parses_done.1 done
  obtain ⟨name, left, t, rfl, rfl, rfl, specifies⟩ := spec.next named gap text specified
  obtain ⟨rfl, unnamed⟩ := specs_terminator (fun n mem => named n (List.mem_cons_of_mem _ mem))
    ended
  exact ⟨name, left, [], t, rfl, by decide, rfl,
    by simp [filter_unnamed unnamed, specifies.named], specifies⟩

theorem IsSpec.sepEnd (named : ∀ n ∈ names, IsDeclName n)
    (text : source.toList = before ++ specsText names rest)
    (h : Parses language source {} (sepEnd r terminator) ('\n' :: specsText names rest) ts s') :
    Takes source kinds own Gap (before.count '\n' + 1) names rest ts s' := by
  obtain h | ⟨rfl, rfl⟩ := parses_opt.1 h
  swap
  · exact .none (g := ['\n']) (by decide) (by simp)
  obtain ⟨_, k, _, first, afterFirst, rfl⟩ := parses_next.1 h
  obtain ⟨_, j, _, others, afterOthers, rfl⟩ := parses_next.1 afterFirst
  obtain ⟨_, i, _, ending, done, rfl⟩ := parses_next.1 afterOthers
  obtain ⟨rfl, rfl⟩ := parses_done.1 done
  obtain ⟨name, names, t, rfl, rfl, rfl, specifies⟩ :=
    spec.next (g := ['\n']) named (by decide) text first
  obtain ⟨isName, namedOthers⟩ := List.forall_mem_cons.1 named
  obtain ⟨taken, left, _, rfl, rfl, rfl, further⟩ :=
    spec.separated namedOthers (after_spec text) others
  have namedLeft : ∀ n ∈ left, IsDeclName n := fun n mem =>
    namedOthers n (List.mem_append_right _ mem)
  rw [count_spec isName] at further
  refine .more (by simp [specifies.named]) specifies ?_
  obtain ending | ⟨rfl, rfl⟩ := parses_opt.1 ending
  · obtain ⟨rfl, unnamed⟩ := specs_terminator namedLeft ending
    exact ⟨taken, left, [], rfl, by decide, rfl, by simpa [filter_unnamed unnamed] using further⟩
  · exact ⟨taken, left, ['\n'], rfl, by decide, rfl, by simpa using further⟩

end

theorem specs_eq {kind : String} {t : Tree} (h : IsPhrase source kind t) (clean : t.Clean)
    {kinds : List String} (other : kinds.contains "comment" = false) :
    t.specs kinds = (t.parts.filter (·.named)).filter fun c => kinds.contains c.kind := by
  rw [specs, namedChildren, List.filter_filter, List.filter_filter]
  refine filter_children h clean _ fun c comment _ => ?_
  rw [comment, other, Bool.false_and]

theorem ownNames_var {t : Tree} (isKind : t.kind = "var_declaration") :
    t.ownNames = (t.specs ["var_spec", "var_spec_list"]).flatMap fun c =>
      if c.kind = "var_spec" then c.listedNames
      else (c.specs ["var_spec"]).flatMap listedNames := by
  have own : t.ownNames = t.namedChildren.flatMap fun c =>
      if c.kind = "var_spec" then c.listedNames
      else if c.kind = "var_spec_list" then (c.specs ["var_spec"]).flatMap listedNames
      else [] := by
    simp [ownNames, isKind]
  rw [own, flatMap_specs]
  refine List.flatMap_congr fun c _ => ?_
  by_cases single : c.kind = "var_spec"
  · simp [single]
  · by_cases list : c.kind = "var_spec_list" <;> simp [single, list]

theorem idents_of_specifies {kinds : List String} {own : Tree → List Tree} {names : List Ident}
    (h : List.Forall₂ (Specifies source kinds own) us names) (clean : ∀ u ∈ us, u.Clean) :
    (us.flatMap own).mapM (·.ident source) = .ok names := by
  induction h with
  | nil => rfl
  | cons first rest ih =>
    obtain ⟨cleanFirst, cleanRest⟩ := List.forall_mem_cons.1 clean
    rw [List.flatMap_cons, List.mapM_append, first.own cleanFirst, ih cleanRest]
    rfl

theorem idents_of_specs {kind : String} {t : Tree} {kinds : List String} {own : Tree → List Tree}
    {names : List Ident} (phrase : IsPhrase source kind t) (clean : t.Clean)
    (other : kinds.contains "comment" = false)
    (h : List.Forall₂ (Specifies source kinds own) (t.parts.filter (·.named)) names) :
    ((t.specs kinds).flatMap own).mapM (·.ident source) = .ok names := by
  have listed : t.specs kinds = t.parts.filter (·.named) := by
    rw [specs_eq phrase clean other, List.filter_eq_self]
    intro u mem
    obtain ⟨_, -, specifies⟩ := exists_mem_of_forall₂ h.flip mem
    simpa using specifies.kind
  have below : ∀ u ∈ t.parts.filter (·.named), u.Clean := fun u mem =>
    clean.child (mem_children_of_mem_parts (List.mem_of_mem_filter mem))
  rw [listed]
  exact idents_of_specifies h below

theorem closed_opening : language.closed (opensAt ['('])
    ["identifier", "_type_identifier", "type_spec", "type_alias", "var_spec"].contains
    ["identifier"] = true := by
  decide

theorem front_opening : Front language source (' ' :: '(' :: rest) (opensAt ['('])
    ["identifier", "_type_identifier", "type_spec", "type_alias", "var_spec"].contains :=
  front_mark (g := [' ']) closed_opening (by decide) (by decide) (by decide)

section

variable (named : ∀ n ∈ names, IsDeclName n)
include named

theorem type_declaration_reads (text : source.toList = before ++ typesText names rest)
    (h : Parses language source {} (ref "type_declaration") (typesText names rest) ts s') :
    (∃ t, ts = [t] ∧ Declares source "type_declaration"
      (listed (before.count '\n' + 2) names) t) ∧ s' = '\n' :: rest := by
  obtain ⟨t, rfl, -, shows, between, body⟩ := (parses_shown rfl rfl rfl).1 h
  have phrase : IsPhrase source "type_declaration" t := ⟨between, _, rfl, rfl, body.derives⟩
  have isKind : t.kind = "type_declaration" := shows.kind
  obtain ⟨_, m, _, keyword, afterKeyword, parts⟩ := parses_next.1 body
  obtain ⟨us, k, _, group, done, rfl⟩ := parses_next.1 afterKeyword
  obtain ⟨rfl, rfl⟩ := parses_done.1 done
  obtain ⟨rfl, w, rfl, -, shown⟩ :=
    lit_ends [] (' ' :: '(' :: '\n' :: specsText names rest) (by decide) (by decide) keyword
  have text' : source.toList = (before ++ "type (\n".toList) ++ specsText names rest := by
    simpa [typesText] using text
  have group := front_opening.only 2 group rfl (by decide)
  obtain ⟨rfl, specifies⟩ := group_reads named (isSpec_type.sepEnd named text') group
  refine ⟨⟨t, rfl, shows.named, isKind, phrase, fun clean => ?_⟩, rfl⟩
  have members : t.parts.filter (·.named) = us.filter (·.named) := by
    simp [parts, shown.named]
  rw [← members] at specifies
  simpa [ownNames, isKind] using idents_of_specs phrase clean rfl specifies

theorem var_list_reads (text : source.toList = before ++ specsText names rest)
    (h : Parses language source {} (ref "var_spec_list")
      (' ' :: '(' :: '\n' :: specsText names rest) ts s') :
    s' = '\n' :: rest ∧ ∃ t, ts = [t] ∧ t.named = true ∧ t.kind = "var_spec_list" ∧
      (t.Clean → ((t.specs ["var_spec"]).flatMap listedNames).mapM (·.ident source) =
        .ok (listed (before.count '\n' + 1) names)) := by
  obtain ⟨t, rfl, -, shows, between, body⟩ := (parses_shown rfl rfl rfl).1 h
  have phrase : IsPhrase source "var_spec_list" t := ⟨between, _, rfl, rfl, body.derives⟩
  obtain ⟨rfl, specifies⟩ :=
    group_reads named (isSpec_var.ended (g := ['\n']) named (by decide) text) body
  refine ⟨rfl, t, rfl, shows.named, shows.kind, fun clean => ?_⟩
  exact idents_of_specs phrase clean rfl specifies

theorem var_declaration_reads (text : source.toList = before ++ valuesText names rest)
    (h : Parses language source {} (ref "var_declaration") (valuesText names rest) ts s') :
    (∃ t, ts = [t] ∧ Declares source "var_declaration"
      (listed (before.count '\n' + 2) names) t) ∧ s' = '\n' :: rest := by
  obtain ⟨t, rfl, -, shows, between, body⟩ := (parses_shown rfl rfl rfl).1 h
  have phrase : IsPhrase source "var_declaration" t := ⟨between, _, rfl, rfl, body.derives⟩
  have isKind : t.kind = "var_declaration" := shows.kind
  obtain ⟨_, m, _, keyword, afterKeyword, parts⟩ := parses_next.1 body
  obtain ⟨_, k, _, group, done, rfl⟩ := parses_next.1 afterKeyword
  obtain ⟨rfl, rfl⟩ := parses_done.1 done
  obtain ⟨rfl, w, rfl, -, shown⟩ :=
    lit_ends [] (' ' :: '(' :: '\n' :: specsText names rest) (by decide) (by decide) keyword
  have group := front_opening.only 1 group rfl (by decide)
  have text' : source.toList = (before ++ "var (\n".toList) ++ specsText names rest := by
    simpa [valuesText] using text
  obtain ⟨rfl, list, rfl, isNamed, kind, idents⟩ := var_list_reads named text' group
  refine ⟨⟨t, rfl, shows.named, isKind, phrase, fun clean => ?_⟩, rfl⟩
  have only : t.specs ["var_spec", "var_spec_list"] = [list] := by
    rw [specs_eq phrase clean rfl, parts]
    simp [shown.named, isNamed, kind]
  have own : t.ownNames = (list.specs ["var_spec"]).flatMap listedNames := by
    rw [ownNames_var isKind, only]
    simp [kind]
  have child : list ∈ t.children := mem_children_of_mem_parts (by simp [parts])
  rw [own]
  simpa using idents (clean.child child)

end

theorem closed_type : language.closed (opensAt "type ".toList)
    (allBut ["type_declaration", "_declaration", "_statement", "statement_list", "source_file"])
    ["identifier"] = true := by
  decide

theorem closed_var : language.closed (opensAt "var ".toList)
    (allBut ["var_declaration", "_declaration", "_statement", "statement_list", "source_file"])
    ["identifier"] = true := by
  decide

theorem front_type : Front language source (typesText names rest) (opensAt "type ".toList)
    (allBut ["type_declaration", "_declaration", "_statement", "statement_list", "source_file"]) :=
  front_keyword "type".toList (by decide) closed_type

theorem front_var : Front language source (valuesText names rest) (opensAt "var ".toList)
    (allBut ["var_declaration", "_declaration", "_statement", "statement_list", "source_file"]) :=
  front_keyword "var".toList (by decide) closed_var

theorem types_line (named : ∀ n ∈ names, IsDeclName n)
    (text : source.toList = before ++ typesText names rest) :
    Line source "type_declaration" (listed (before.count '\n' + 2) names) (typesText names rest)
      rest := by
  refine .of_statement ⟨'t', _, rfl, by decide⟩ nofun front_type rfl fun ts s' h => ?_
  have declaration : Parses language source {} (ref "_declaration") (typesText names rest) ts s' :=
    front_type.only 0 ((parses_hidden rfl rfl rfl).1 h) rfl (by decide)
  obtain ⟨declares, stop⟩ := type_declaration_reads named text
    (front_type.only 1 ((parses_hidden rfl rfl rfl).1 declaration) rfl (by decide))
  exact ⟨declares, .inl stop⟩

theorem values_line (named : ∀ n ∈ names, IsDeclName n)
    (text : source.toList = before ++ valuesText names rest) :
    Line source "var_declaration" (listed (before.count '\n' + 2) names) (valuesText names rest)
      rest := by
  refine .of_statement ⟨'v', _, rfl, by decide⟩ nofun front_var rfl fun ts s' h => ?_
  have declaration : Parses language source {} (ref "_declaration") (valuesText names rest) ts s' :=
    front_var.only 0 ((parses_hidden rfl rfl rfl).1 h) rfl (by decide)
  obtain ⟨declares, stop⟩ := var_declaration_reads named text
    (front_var.only 2 ((parses_hidden rfl rfl rfl).1 declaration) rfl (by decide))
  exact ⟨declares, .inl stop⟩

end TagIndex.Go
