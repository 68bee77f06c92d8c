import TagIndex.Proofs.Source.Acceptance

/-! What a file declares is read off the names at its top level. Whatever else the nodes of its
declarations have below them makes no difference. -/

namespace TagIndex
open Text Grammar

namespace Tree

def specs (kinds : List String) (t : Tree) : List Tree :=
  t.namedChildren.filter fun c => kinds.contains c.kind

/-- The node of the package's name, of the name of a function or method, or of the names in the
specifications of a declaration. Only variables may have their specifications in a list. -/
def ownNames (t : Tree) : List Tree :=
  if t.kind = "package_clause" then t.packageNode?.toList
  else if t.kind = "function_declaration" ∨ t.kind = "method_declaration" then
    t.nameNode?.toList
  else if t.kind = "type_declaration" then
    (t.specs ["type_spec", "type_alias"]).flatMap fun spec => spec.nameNode?.toList
  else if t.kind = "var_declaration" then
    t.namedChildren.flatMap fun c =>
      if c.kind = "var_spec" then c.listedNames
      else if c.kind = "var_spec_list" then (c.specs ["var_spec"]).flatMap listedNames
      else []
  else if t.kind = "const_declaration" then (t.specs ["const_spec"]).flatMap listedNames
  else []

/-- The text of a name and its row. -/
def spelling (source : String) (n : Tree) : List UInt8 × Nat := (n.bytesIn source, n.start.row)

structure Agrees (source source' : String) (t t' : Tree) : Prop where
  kind : t.kind = t'.kind
  names : t.ownNames.map (spelling source) = t'.ownNames.map (spelling source')

variable {source source' : String} {t t' n n' : Tree} {i : Ident}

theorem Agrees.symm (h : Agrees source source' t t') : Agrees source' source t' t :=
  ⟨h.kind.symm, h.names.symm⟩

theorem ident_of_spelling (same : n.spelling source = n'.spelling source')
    (read : n.ident source = .ok i) : n'.ident source' = .ok i := by
  obtain ⟨bytes, row⟩ := Prod.mk.inj same
  have text : n.textIn source = n'.textIn source' := by rw [textIn, textIn, bytes]
  unfold ident at read ⊢
  rw [← text, ← row]
  cases decoded : n.textIn source with
  | ok name =>
    rw [decoded] at read
    exact read
  | error flaw =>
    rw [decoded] at read
    cases read

theorem idents_of_spelling {names names' : List Tree} {is : List Ident}
    (same : names.map (spelling source) = names'.map (spelling source'))
    (read : names.mapM (·.ident source) = .ok is) : names'.mapM (·.ident source') = .ok is := by
  induction names generalizing names' is with
  | nil =>
    have none : names' = [] := List.map_eq_nil_iff.1 same.symm
    rw [none]
    exact read
  | cons n names ih =>
    obtain ⟨n', rest, rfl, first, later⟩ := List.map_eq_cons_iff.1 same.symm
    rw [mapM_eq_ok_iff, List.forall₂_cons_left_iff] at read
    obtain ⟨i, is, head, tail, rfl⟩ := read
    have head' : n'.ident source' = .ok i := ident_of_spelling first.symm head
    have tail' : rest.mapM (·.ident source') = .ok is := ih later.symm (mapM_eq_ok_iff.2 tail)
    exact mapM_eq_ok_iff.2 (.cons head' (mapM_eq_ok_iff.1 tail'))

/-- A declaration is told by the kind of its node and by its names. -/
theorem decl_unique {d d' : Decl} (kind : t.kind = t'.kind) (names : d.names = d'.names)
    (read : t.decl source = .ok d) (read' : t'.decl source' = .ok d') : d = d' := by
  unfold decl at read read'
  rw [← kind] at read'
  split_ifs at read read'
  -- All kinds with names are read in the same way, an import has none.
  iterate 5
    obtain ⟨_, -, rfl⟩ := map_eq_ok_iff.1 read
    obtain ⟨_, -, rfl⟩ := map_eq_ok_iff.1 read'
    simpa [Decl.names] using names
  exact Except.ok.inj (read.symm.trans read')

theorem gather_eq_flatMap {own : Tree → Option (List Tree)} {ending : String}
    {names : Tree → List Tree} (each : ∀ c ∈ t.children, c.named = true →
      (own c).getD (if c.kindEnds ending then c.gather own ending else []) = names c) :
    t.gather own ending = t.namedChildren.flatMap names := by
  obtain ⟨l, cs⟩ := t
  rw [gather, gatherAmong_eq_flatMap, namedChildren, flatMap_filter]
  refine List.flatMap_congr fun c child => ?_
  cases shown : c.named with
  | false => rfl
  | true => exact each c child shown

theorem flatMap_specs (kinds : List String) (names : Tree → List Tree) (t : Tree) :
    (t.specs kinds).flatMap names =
      t.namedChildren.flatMap fun c => if kinds.contains c.kind then names c else [] :=
  flatMap_filter _ _ _

end Tree

namespace Go
open TagIndex.Tree

variable {source : String} {t : Tree}

theorem gather_types (h : IsPhrase source "type_declaration" t) (clean : t.Clean) :
    t.gather typeSpecNames "_list" =
      (t.specs ["type_spec", "type_alias"]).flatMap fun spec => spec.nameNode?.toList := by
  rw [flatMap_specs]
  refine gather_eq_flatMap fun c child named => ?_
  obtain ⟨member, -⟩ | comment := member_or_comment type_group h clean child named
  · have spec : c.kind = "type_spec" ∨ c.kind = "type_alias" := by simpa using member
    simp [typeSpecNames, spec]
  · simp [typeSpecNames, comment, comment_ends comment]

theorem gather_specs {kind spec : String} (listed : (kind, [spec]) ∈ groups)
    (value : spec ∈ valueKinds) (h : IsPhrase source kind t) (clean : t.Clean) :
    t.gather (valueSpecNames spec) "_spec_list" = (t.specs [spec]).flatMap listedNames := by
  rw [flatMap_specs]
  refine gather_eq_flatMap fun c child named => ?_
  obtain ⟨member, -⟩ | comment := member_or_comment listed h clean child named
  · have same : c.kind = spec := by simpa using member
    simp [valueSpecNames, same]
  · have other : "comment" ≠ spec := by
      rintro rfl
      revert value
      decide
    simp [valueSpecNames, comment, comment_ends comment, other]

theorem gather_vars (h : IsPhrase source "var_declaration" t) (clean : t.Clean) :
    t.gather (valueSpecNames "var_spec") "_spec_list" = t.namedChildren.flatMap fun c =>
      if c.kind = "var_spec" then c.listedNames
      else if c.kind = "var_spec_list" then (c.specs ["var_spec"]).flatMap listedNames
      else [] := by
  refine gather_eq_flatMap fun c child named => ?_
  obtain ⟨member, phrase⟩ | comment := member_or_comment var_group h clean child named
  · obtain spec | list : c.kind = "var_spec" ∨ c.kind = "var_spec_list" := by simpa using member
    · simp [valueSpecNames, spec]
    · have ends : c.kindEnds "_spec_list" = true := by
        rw [kindEnds, list]
        decide
      have single : ("var_spec_list", ["var_spec"]) ∈ groups := by decide
      have inner := gather_specs single (by decide) (list ▸ phrase) (clean.child child)
      simp [valueSpecNames, list, ends, inner]
  · simp [valueSpecNames, comment, comment_ends comment]

theorem declaredNames_eq (listed : t.kind ∈ declarationKinds) (h : IsPhrase source t.kind t)
    (clean : t.Clean) : t.declaredNames = t.ownNames := by
  simp only [declarationKinds, List.mem_cons, List.not_mem_nil, or_false] at listed
  obtain kind | kind | kind | kind | kind | kind := listed
  · simp [declaredNames, ownNames, kind]
  · simp [declaredNames, ownNames, kind]
  · rw [kind] at h
    simpa [declaredNames, ownNames, kind] using gather_types h clean
  · rw [kind] at h
    simpa [declaredNames, ownNames, kind] using gather_vars h clean
  · rw [kind] at h
    have single : ("const_declaration", ["const_spec"]) ∈ groups := by decide
    simpa [declaredNames, ownNames, kind] using gather_specs single (by decide) h clean
  · simp [declaredNames, ownNames, kind]

end Go

open TagIndex.Tree

section

variable {source source' : String} {tree tree' t t' : Tree}

theorem packageName_of_agrees (h : Go.TreeOf source tree) (h' : Go.TreeOf source' tree')
    (clean : tree.Clean) (clean' : tree'.Clean) (mem : t ∈ tree.topLevelNodes)
    (mem' : t' ∈ tree'.topLevelNodes) (agree : Agrees source source' t t')
    (kind : t.kind = "package_clause") {name : Ident} (read : t.packageName source = .ok name) :
    t'.packageName source' = .ok name := by
  have kind' : t'.kind = "package_clause" := agree.kind ▸ kind
  obtain ⟨n, i, found, -, -, ident, package⟩ := exists_package h clean mem kind
  obtain ⟨n', -, found', -, -, -, -⟩ := exists_package h' clean' mem' kind'
  have same : n.spelling source = n'.spelling source' := by
    simpa [ownNames, kind, kind', found, found'] using agree.names
  obtain rfl : i = name := Except.ok.inj (package.symm.trans read)
  rw [packageName_eq found']
  exact ident_of_spelling same ident

theorem decl_of_agrees (h : Go.TreeOf source tree) (h' : Go.TreeOf source' tree')
    (clean : tree.Clean) (clean' : tree'.Clean) (mem : t ∈ tree.topLevelNodes)
    (mem' : t' ∈ tree'.topLevelNodes) (agree : Agrees source source' t t') {d : Decl}
    (read : t.decl source = .ok d) : t'.decl source' = .ok d := by
  have listed : t.kind ∈ Go.declarationKinds := by
    by_contra other
    rw [decl_of_other other] at read
    cases read
  have listed' : t'.kind ∈ Go.declarationKinds := agree.kind ▸ listed
  have phrase := isPhrase_of_mem h clean mem (List.mem_cons_of_mem _ listed)
  have phrase' := isPhrase_of_mem h' clean' mem' (List.mem_cons_of_mem _ listed')
  have sound : t.Clean := clean.child (mem_children_of_topLevelNodes mem)
  have sound' : t'.Clean := clean'.child (mem_children_of_topLevelNodes mem')
  obtain ⟨own, done, names⟩ := exists_declaration h clean mem listed
  obtain rfl : own = d := Except.ok.inj (done.symm.trans read)
  have idents : t'.declaredNames.mapM (·.ident source') = .ok own.names := by
    rw [Go.declaredNames_eq listed phrase sound, ← mapM_eq_ok_iff] at names
    rw [Go.declaredNames_eq listed' phrase' sound']
    exact idents_of_spelling agree.names names
  obtain ⟨d', read', names'⟩ := Go.exists_decl listed' phrase' sound' idents
  rwa [decl_unique agree.kind names'.symm read read']

theorem decls_of_agrees (h : Go.TreeOf source tree) (h' : Go.TreeOf source' tree')
    (clean : tree.Clean) (clean' : tree'.Clean) {ts ts' : List Tree}
    (mem : ∀ t ∈ ts, t ∈ tree.topLevelNodes) (mem' : ∀ t ∈ ts', t ∈ tree'.topLevelNodes)
    (agree : List.Forall₂ (Agrees source source') ts ts') {ds : List Decl}
    (read : ts.mapM (·.decl source) = .ok ds) : ts'.mapM (·.decl source') = .ok ds := by
  rw [mapM_eq_ok_iff] at read ⊢
  induction agree generalizing ds with
  | nil =>
    cases read
    exact .nil
  | cons first rest ih =>
    obtain ⟨memFirst, memRest⟩ := List.forall_mem_cons.1 mem
    obtain ⟨memFirst', memRest'⟩ := List.forall_mem_cons.1 mem'
    cases read with
    | cons head tail =>
      exact .cons (decl_of_agrees h h' clean clean' memFirst memFirst' first head)
        (ih memRest memRest' tail)

theorem topLevel_of_agrees (h : Go.TreeOf source tree) (h' : Go.TreeOf source' tree')
    (clean : tree.Clean) (clean' : tree'.Clean)
    (agree : List.Forall₂ (Agrees source source') tree.topLevelNodes tree'.topLevelNodes)
    {top : Ident × List Decl} (read : topLevel source tree.topLevelNodes = .ok top) :
    topLevel source' tree'.topLevelNodes = .ok top := by
  obtain ⟨name, ds⟩ := top
  cases nodes : tree.topLevelNodes with
  | nil =>
    rw [nodes] at read
    cases read
  | cons t ts =>
    rw [nodes, topLevel_eq_ok_iff] at read
    obtain ⟨kind, package, decls⟩ := read
    rw [nodes, List.forall₂_cons_left_iff] at agree
    obtain ⟨t', ts', first, rest, nodes'⟩ := agree
    have mem : ∀ u ∈ t :: ts, u ∈ tree.topLevelNodes := by simp [nodes]
    have mem' : ∀ u ∈ t' :: ts', u ∈ tree'.topLevelNodes := by simp [nodes']
    obtain ⟨here, below⟩ := List.forall_mem_cons.1 mem
    obtain ⟨here', below'⟩ := List.forall_mem_cons.1 mem'
    have package' : t'.packageName source' = .ok name :=
      packageName_of_agrees h h' clean clean' here here' first kind package
    have decls' : ts'.mapM (·.decl source') = .ok ds :=
      decls_of_agrees h h' clean clean' below below' rest decls
    rw [nodes', topLevel_eq_ok_iff]
    exact ⟨first.kind ▸ kind, package', decls'⟩

theorem ofTree_eq_ok_iff {path : String} {file : SourceFile}
    (noNul : 0 ∉ Utf8.encode source.toList) (flagged : tree.Flagged) (clean : tree.Clean) :
    SourceFile.ofTree path source tree = .ok file ↔ file.path = path ∧
      topLevel source tree.topLevelNodes = .ok (file.package, file.decls) := by
  rw [ofTree_of_clean noNul flagged clean, map_eq_ok_iff]
  constructor
  · rintro ⟨top, read, rfl⟩
    exact ⟨rfl, read⟩
  · rintro ⟨rfl, read⟩
    exact ⟨_, read, rfl⟩

/-- Two texts whose trees agree in the kinds of their top-level nodes and in the names there are
both refused, or declare the same. -/
theorem only_top_level_names_matter (path path' : String) (h : Go.TreeOf source tree)
    (h' : Go.TreeOf source' tree') (clean : tree.Clean) (clean' : tree'.Clean)
    (noNul : 0 ∉ Utf8.encode source.toList) (noNul' : 0 ∉ Utf8.encode source'.toList)
    (agree : List.Forall₂ (Agrees source source') tree.topLevelNodes tree'.topLevelNodes) :
    ((∃ file, SourceFile.ofTree path source tree = .ok file) ↔
      ∃ file', SourceFile.ofTree path' source' tree' = .ok file') ∧
    ∀ file file', SourceFile.ofTree path source tree = .ok file →
      SourceFile.ofTree path' source' tree' = .ok file' →
        file.package = file'.package ∧ file.decls = file'.decls := by
  simp only [ofTree_eq_ok_iff noNul h.flagged clean, ofTree_eq_ok_iff noNul' h'.flagged clean']
  have there {top : Ident × List Decl} (read : topLevel source tree.topLevelNodes = .ok top) :
      topLevel source' tree'.topLevelNodes = .ok top :=
    topLevel_of_agrees h h' clean clean' agree read
  have back {top : Ident × List Decl} (read : topLevel source' tree'.topLevelNodes = .ok top) :
      topLevel source tree.topLevelNodes = .ok top :=
    topLevel_of_agrees h' h clean' clean (agree.flip.imp fun _ _ => Agrees.symm) read
  refine ⟨⟨?_, ?_⟩, ?_⟩
  · rintro ⟨file, -, read⟩
    exact ⟨⟨path', file.package, file.decls⟩, rfl, there read⟩
  · rintro ⟨file, -, read⟩
    exact ⟨⟨path, file.package, file.decls⟩, rfl, back read⟩
  · rintro file file' ⟨-, read⟩ ⟨-, read'⟩
    have same := Except.ok.inj ((there read).symm.trans read')
    exact Prod.mk.inj same

end

namespace Sample

/-- The same names at the same lines, with an initial value for a type. -/
def valuedText : String := "package p\nvar a, B = f\n"

def valuedSpec : Tree := node "var_spec" true none ⟨14, 1, 4⟩ 22 [
  node "identifier" true (some "name") ⟨14, 1, 4⟩ 15 [],
  node "," false none ⟨15, 1, 5⟩ 16 [],
  node "identifier" true (some "name") ⟨17, 1, 7⟩ 18 [],
  node "=" false none ⟨19, 1, 9⟩ 20 [],
  node "expression_list" true (some "value") ⟨21, 1, 11⟩ 22 [
    node "identifier" true none ⟨21, 1, 11⟩ 22 []]]

def valuedDeclaration : Tree := node "var_declaration" true none ⟨10, 1, 0⟩ 22 [
  node "var" false none ⟨10, 1, 0⟩ 13 [],
  valuedSpec]

def valuedTree : Tree := node "source_file" true none ⟨0, 0, 0⟩ 23 [clause, valuedDeclaration]

section
open Go Phrase

theorem derives_valuedClause :
    Derives language valuedText {} (ref "package_clause") [clause] := by
  have word : Derives language valuedText {} (lit "package")
      [node "package" false none ⟨0, 0, 0⟩ 7 []] :=
    derives_lit rfl ⟨rfl, rfl, rfl⟩ rfl rfl
  have name : Derives language valuedText {} (ref "_package_identifier")
      [node "package_identifier" true none ⟨8, 0, 8⟩ 9 []] :=
    derives_name "package_identifier" ['p'] (by decide) rfl rfl ⟨rfl, rfl, rfl⟩ rfl rfl
      (identifier_matches (by decide +kernel) (by simp))
  exact .rule package_clause_rule rfl rfl (.inr rfl) ⟨rfl, rfl, rfl⟩
    (interspersed_of_belongs (by decide)) (.next word (.next name .done))

theorem derives_valuedSpec : Derives language valuedText {} (ref "var_spec") [valuedSpec] := by
  have a : Derives language valuedText {} (.field "name" (ref "identifier"))
      [node "identifier" true (some "name") ⟨14, 1, 4⟩ 15 []] :=
    .field (derives_name "identifier" ['a'] (by decide) rfl rfl ⟨rfl, rfl, rfl⟩ rfl rfl
      (identifier_matches (by decide +kernel) (by simp)))
  have comma : Derives language valuedText {} (lit ",")
      [node "," false none ⟨15, 1, 5⟩ 16 []] :=
    derives_lit rfl ⟨rfl, rfl, rfl⟩ rfl rfl
  have b : Derives language valuedText {} (.field "name" (ref "identifier"))
      [node "identifier" true (some "name") ⟨17, 1, 7⟩ 18 []] :=
    .field (derives_name "identifier" ['B'] (by decide) rfl rfl ⟨rfl, rfl, rfl⟩ rfl rfl
      (identifier_matches (by decide +kernel) (by simp)))
  have names : Derives language valuedText {} (commaSep1 (.field "name" (ref "identifier")))
      (valuedSpec.children.take 3) :=
    .next a (.next (.choice List.mem_cons_self (.once (.next comma (.next b .done)))) .done)
  have equals : Derives language valuedText {} (lit "=")
      [node "=" false none ⟨19, 1, 9⟩ 20 []] :=
    derives_lit rfl ⟨rfl, rfl, rfl⟩ rfl rfl
  have f : Derives language valuedText {} (ref "identifier")
      [node "identifier" true none ⟨21, 1, 11⟩ 22 []] :=
    derives_name "identifier" ['f'] (by decide) rfl rfl ⟨rfl, rfl, rfl⟩ rfl rfl
      (identifier_matches (by decide +kernel) (by simp))
  have expression : Derives language valuedText {} (ref "_expression")
      [node "identifier" true none ⟨21, 1, 11⟩ 22 []] :=
    .hiddenRule rfl rfl rfl (.choice (by simp [ref]) f)
  have expressions : Derives language valuedText {} (commaSep1 (ref "_expression"))
      [node "identifier" true none ⟨21, 1, 11⟩ 22 []] :=
    .next expression (.next (.choice (List.mem_cons_of_mem _ List.mem_cons_self) .blank) .done)
  have value : Derives language valuedText {} (.field "value" (ref "expression_list"))
      (valuedSpec.children.drop 4) :=
    .field (.rule rfl rfl rfl (.inr rfl) ⟨rfl, rfl, rfl⟩ (interspersed_of_belongs (by decide))
      expressions)
  exact .rule rfl rfl rfl (.inr rfl) ⟨rfl, rfl, rfl⟩ (interspersed_of_belongs (by decide))
    (.next names (.next (.choice (List.mem_cons_of_mem _ List.mem_cons_self)
      (.next equals (.next value .done))) .done))

theorem derives_valuedTree : Derives language valuedText {} (ref "source_file") [valuedTree] := by
  have word : Derives language valuedText {} (lit "var")
      [node "var" false none ⟨10, 1, 0⟩ 13 []] :=
    derives_lit rfl ⟨rfl, rfl, rfl⟩ rfl rfl
  have declaration : Derives language valuedText {} (ref "var_declaration") [valuedDeclaration] :=
    .rule rfl rfl rfl (.inr rfl) ⟨rfl, rfl, rfl⟩ (interspersed_of_belongs (by decide))
      (.next word (.next (.choice List.mem_cons_self derives_valuedSpec) .done))
  have ending : Derives language valuedText {} terminator [] :=
    .choice List.mem_cons_self (.hiddenToken rfl rfl)
  have first : Derives language valuedText {} (ref "_top_level_declaration") [clause] :=
    .hiddenRule rfl rfl rfl (.choice List.mem_cons_self derives_valuedClause)
  have second : Derives language valuedText {} (ref "_statement") [valuedDeclaration] :=
    .hiddenRule rfl rfl rfl (.choice List.mem_cons_self (.hiddenRule rfl rfl rfl
      (.choice (List.mem_cons_of_mem _ (List.mem_cons_of_mem _ List.mem_cons_self)) declaration)))
  let item : Phrase := oneOf [
    .seq [ref "_statement", terminator],
    .seq [ref "_top_level_declaration", terminator]]
  have first : Derives language valuedText {} item [clause] :=
    .choice (List.mem_cons_of_mem _ List.mem_cons_self) (.next first (.next ending .done))
  have second : Derives language valuedText {} item [valuedDeclaration] :=
    .choice List.mem_cons_self (.next second (.next ending .done))
  have items : Derives language valuedText {} (many item) [clause, valuedDeclaration] :=
    .choice List.mem_cons_self (.again first (.once second))
  exact .rule rfl rfl rfl (.inr rfl) ⟨rfl, rfl, rfl⟩ (interspersed_of_belongs (by decide))
    (.next items (.next (.choice (List.mem_cons_of_mem _ List.mem_cons_self) .blank) .done))

end

theorem spans_valuedTree : ∀ u ∈ valuedTree.preorder, u.Spans valuedText := by
  have single : ∀ k ≤ 23, (Utf8.encode (valuedText.toList.take k)).length = k := by decide
  exact spans_of_single single (by decide)

theorem treeOf_valued : Go.TreeOf valuedText valuedTree :=
  ⟨.inr derives_valuedTree, by decide, spans_valuedTree⟩

theorem agrees_valued :
    List.Forall₂ (Agrees text valuedText) tree.topLevelNodes valuedTree.topLevelNodes := by
  have clauses : Agrees text valuedText clause clause := ⟨rfl, by decide +kernel⟩
  have declarations : Agrees text valuedText declaration valuedDeclaration :=
    ⟨rfl, by decide +kernel⟩
  exact .cons clauses (.cons declarations .nil)

theorem clean : tree.Clean := by
  decide

theorem clean_valued : valuedTree.Clean := by
  decide

end Sample

theorem only_top_level_names_matter_sample :
    ((∃ file, SourceFile.ofTree "a.go" Sample.text Sample.tree = .ok file) ↔
      ∃ file', SourceFile.ofTree "b.go" Sample.valuedText Sample.valuedTree = .ok file') ∧
    ∀ file file', SourceFile.ofTree "a.go" Sample.text Sample.tree = .ok file →
      SourceFile.ofTree "b.go" Sample.valuedText Sample.valuedTree = .ok file' →
        file.package = file'.package ∧ file.decls = file'.decls :=
  only_top_level_names_matter "a.go" "b.go" Sample.treeOf Sample.treeOf_valued Sample.clean
    Sample.clean_valued (by decide) (by decide) Sample.agrees_valued

end TagIndex
