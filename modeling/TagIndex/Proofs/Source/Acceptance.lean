import TagIndex.Proofs.Go.Identifier
import TagIndex.Proofs.Run.Gathering
import TagIndex.Proofs.Source.Names
import TagIndex.Proofs.Tree.Places

/-! Which files a scan accepts, and what it reports of the others. -/

namespace TagIndex
open Files Text TagIndex.Tree Grammar

structure Go.TreeOf (source : String) (tree : Tree) : Prop where
  shaped : Go.Shaped source tree
  flagged : tree.Flagged
  spans : ∀ u ∈ tree.preorder, u.Spans source

def Tree.topLevelNodes (t : Tree) : List Tree := t.namedChildren.filter fun c => !c.label.extra

structure Accepted (parse : String → Tree) (bytes : List UInt8) (source : String) (clause : Tree)
    (decls : List Tree) : Prop where
  text : bytes = Utf8.encode source.toList
  noNul : 0 ∉ bytes
  clean : (parse source).Clean
  nodes : (parse source).topLevelNodes = clause :: decls
  clause : clause.kind = "package_clause"
  decls : ∀ t ∈ decls, t.kind ∈ Go.declarationKinds

inductive Refused (parse : String → Tree) (bytes : List UInt8) : Diagnostic → Prop
  | encoding {offset : Nat} (last : Utf8.LastGood bytes offset) :
      Refused parse bytes ⟨positionAt bytes offset, .illegalEncoding⟩
  | nul {source : String} {before after : List UInt8} (text : bytes = Utf8.encode source.toList)
      (split : bytes = before ++ 0 :: after) (first : 0 ∉ before) :
      Refused parse bytes ⟨positionAt bytes before.length, .nulCharacter⟩
  | bad {source : String} {before after : List Tree} {t : Tree}
      (text : bytes = Utf8.encode source.toList) (noNul : 0 ∉ bytes)
      (split : (parse source).preorder = before ++ t :: after) (isBad : t.isBad = true)
      (first : ∀ u ∈ before, u.isBad = false) : Refused parse bytes (t.diagnose (t.fault source))
  | beforePackage {source : String} {t : Tree} {after : List Tree}
      (text : bytes = Utf8.encode source.toList) (noNul : 0 ∉ bytes)
      (clean : (parse source).Clean) (nodes : (parse source).topLevelNodes = t :: after)
      (other : t.kind ≠ "package_clause") :
      Refused parse bytes (t.diagnose (.beforePackage t.kind))
  | noPackage {source : String} (text : bytes = Utf8.encode source.toList) (noNul : 0 ∉ bytes)
      (clean : (parse source).Clean) (nodes : (parse source).topLevelNodes = []) :
      Refused parse bytes ⟨⟨1, 1⟩, .noPackage⟩
  | notDeclaration {source : String} {clause t : Tree} {before after : List Tree}
      (text : bytes = Utf8.encode source.toList) (noNul : 0 ∉ bytes)
      (clean : (parse source).Clean)
      (nodes : (parse source).topLevelNodes = clause :: before ++ t :: after)
      (clauseKind : clause.kind = "package_clause")
      (decls : ∀ u ∈ before, u.kind ∈ Go.declarationKinds) (other : t.kind ∉ Go.declarationKinds) :
      Refused parse bytes (t.diagnose (.notDeclaration t.kind))

section

variable {parse : String → Tree} {bytes : List UInt8} {source path : String} {tree clause t : Tree}
  {decls : List Tree}

theorem accepted_or_refused (parse : String → Tree) (bytes : List UInt8) :
    (∃ source clause decls, Accepted parse bytes source clause decls) ∨
      ∃ d, Refused parse bytes d := by
  obtain ⟨text, encoded⟩ | ⟨offset, last⟩ := Utf8.wellFormed_or_lastGood bytes
  swap
  · exact .inr ⟨_, .encoding last⟩
  obtain ⟨source, rfl⟩ : ∃ source : String, text = source.toList := ⟨String.ofList text, by simp⟩
  by_cases nul : 0 ∈ bytes
  · obtain ⟨before, after, split, first⟩ := List.eq_append_cons_of_mem nul
    exact .inr ⟨_, .nul encoded split first⟩
  cases searched : (parse source).preorder.find? isBad with
  | some t =>
    obtain ⟨isBad, before, after, split, first⟩ := List.find?_eq_some_iff_append.1 searched
    exact .inr ⟨_, .bad encoded nul split isBad (by simpa using first)⟩
  | none =>
    have clean : (parse source).Clean := by simpa [Clean] using List.find?_eq_none.1 searched
    cases nodes : (parse source).topLevelNodes with
    | nil => exact .inr ⟨_, .noPackage encoded nul clean nodes⟩
    | cons t ts =>
      by_cases clause : t.kind = "package_clause"
      · cases other : ts.find? (·.kind ∉ Go.declarationKinds) with
        | some u =>
          obtain ⟨kind, before, after, split, first⟩ := List.find?_eq_some_iff_append.1 other
          exact .inr ⟨_, .notDeclaration encoded nul clean (split ▸ nodes) clause
            (by simpa using first) (by simpa using kind)⟩
        | none =>
          exact .inl ⟨source, t, ts, encoded, nul, clean, nodes, clause,
            by simpa using List.find?_eq_none.1 other⟩
      · exact .inr ⟨_, .beforePackage encoded nul clean nodes clause⟩

theorem read_of_text (text : bytes = Utf8.encode source.toList) :
    SourceFile.read parse path bytes = SourceFile.ofTree path source (parse source) := by
  simp [SourceFile.read, decodeText, Utf8.decode_eq_ok_iff.2 text, bind, Except.bind]

theorem read_of_lastGood {offset : Nat} (last : Utf8.LastGood bytes offset) :
    SourceFile.read parse path bytes = .error ⟨positionAt bytes offset, .illegalEncoding⟩ := by
  have flawed : Utf8.decode bytes = .error ⟨offset, Utf8.flawLength? (bytes.drop offset)⟩ :=
    Utf8.decode_eq_error_iff.2 ⟨last, rfl⟩
  simp [SourceFile.read, decodeText, flawed, bind, Except.bind]

theorem firstNul?_eq_none (noNul : 0 ∉ bytes) : firstNul? bytes = none := by
  rw [firstNul?, List.findIdx?_eq_none_iff]
  intro b mem
  simpa using fun zero : b = 0 => noNul (zero ▸ mem)

theorem firstNul?_append {before after : List UInt8} (first : 0 ∉ before) :
    firstNul? (before ++ 0 :: after) = some before.length := by
  have none := firstNul?_eq_none first
  rw [firstNul?] at none ⊢
  simp [List.findIdx?_append, none, List.findIdx?_cons]

theorem ofTree_of_bad {bad : Tree} (noNul : 0 ∉ Utf8.encode source.toList)
    (found : tree.firstError? = some bad) :
    SourceFile.ofTree path source tree = .error (bad.diagnose (bad.fault source)) := by
  simp [SourceFile.ofTree, firstNul?_eq_none noNul, found]

theorem ofTree_of_clean (noNul : 0 ∉ Utf8.encode source.toList) (flagged : tree.Flagged)
    (clean : tree.Clean) : SourceFile.ofTree path source tree =
      (fun top => ⟨path, top.1, top.2⟩) <$> topLevel source tree.topLevelNodes := by
  have none : tree.firstError? = none := by
    rw [firstError?_eq_find? flagged, List.find?_eq_none]
    simpa [Clean] using clean
  simp only [SourceFile.ofTree, firstNul?_eq_none noNul, none, topLevelNodes]
  cases topLevel source _ <;> rfl

theorem isPhrase_of_mem (h : Go.TreeOf source tree) (clean : tree.Clean)
    (mem : t ∈ tree.topLevelNodes) (kind : t.kind ∈ "package_clause" :: Go.declarationKinds) :
    Go.IsPhrase source t.kind t := by
  obtain ⟨mem, notExtra⟩ := List.mem_filter.1 mem
  obtain ⟨child, named⟩ := List.mem_filter.1 mem
  have part : t ∈ tree.parts := by
    refine List.mem_filter.2 ⟨child, ?_⟩
    simpa [belongs, (clean.child child).not_error] using notExtra
  exact Go.isPhrase_of_topLevel (h.shaped.isPhrase clean.not_error) part named kind

theorem mem_children_of_topLevelNodes (mem : t ∈ tree.topLevelNodes) : t ∈ tree.children :=
  List.mem_of_mem_filter (List.mem_of_mem_filter mem)

theorem exists_ident {n : Tree} (h : Go.TreeOf source tree) (mem : n ∈ tree.preorder) :
    ∃ i, n.ident source = .ok i := by
  obtain ⟨before, text, splits⟩ := (h.spans n mem).splits
  exact ⟨_, splits.ident⟩

theorem exists_package (h : Go.TreeOf source tree) (clean : tree.Clean)
    (mem : t ∈ tree.topLevelNodes) (kind : t.kind = "package_clause") :
    ∃ n i, t.packageNode? = some n ∧ Go.IsName source n ∧ n ∈ t.children ∧
      n.ident source = .ok i ∧ t.packageName source = .ok i := by
  have phrase := isPhrase_of_mem h clean mem (by simp [kind])
  have child := mem_children_of_topLevelNodes mem
  rw [kind] at phrase
  obtain ⟨n, below, found, isName⟩ := Go.exists_packageNode phrase (clean.child child)
  obtain ⟨i, ident⟩ := exists_ident h
    (mem_preorder_of_child child (mem_preorder_of_child below (self_mem_preorder n)))
  exact ⟨n, i, found, isName, below, ident, (packageName_eq found).trans ident⟩

theorem exists_declaration (h : Go.TreeOf source tree) (clean : tree.Clean)
    (mem : t ∈ tree.topLevelNodes) (kind : t.kind ∈ Go.declarationKinds) :
    ∃ decl, t.decl source = .ok decl ∧
      List.Forall₂ (fun n i => n.ident source = .ok i) t.declaredNames decl.names := by
  have phrase := isPhrase_of_mem h clean mem (List.mem_cons_of_mem _ kind)
  have child := mem_children_of_topLevelNodes mem
  obtain ⟨names, read⟩ := exists_mapM_eq_ok_iff.2 fun n (declared : n ∈ t.declaredNames) =>
    exists_ident h (mem_preorder_of_child child (mem_preorder_of_declaredNames declared))
  obtain ⟨decl, done, rfl⟩ := Go.exists_decl kind phrase (clean.child child) read
  exact ⟨decl, done, mapM_eq_ok_iff.1 read⟩

theorem topLevel_eq_ok_iff {name : Ident} {ds : List Decl} :
    topLevel source (t :: decls) = .ok (name, ds) ↔ t.kind = "package_clause" ∧
      t.packageName source = .ok name ∧ decls.mapM (·.decl source) = .ok ds := by
  rw [topLevel]
  split
  · simp [bind_eq_ok_iff, map_eq_ok_iff, *]
  · simp [*]

theorem decl_of_other (other : t.kind ∉ Go.declarationKinds) :
    t.decl source = .error (t.diagnose (.notDeclaration t.kind)) := by
  simp only [Go.declarationKinds, List.mem_cons, List.not_mem_nil, or_false, not_or] at other
  simp [decl, other]

theorem read_of_refused (h : ∀ source, bytes = Utf8.encode source.toList →
    Go.TreeOf source (parse source)) {d : Diagnostic} (refused : Refused parse bytes d) :
    SourceFile.read parse path bytes = .error d := by
  cases refused with
  | encoding last => exact read_of_lastGood last
  | nul text split first =>
    rw [read_of_text text, SourceFile.ofTree, ← text, split, firstNul?_append first]
  | bad text noNul split isBad first =>
    rw [read_of_text text]
    refine ofTree_of_bad (text ▸ noNul) ?_
    rw [firstError?_eq_find? (h _ text).flagged, split]
    exact List.find?_eq_some_iff_append.2 ⟨isBad, _, _, rfl, by simpa using first⟩
  | beforePackage text noNul clean nodes other =>
    rw [read_of_text text, ofTree_of_clean (text ▸ noNul) (h _ text).flagged clean, nodes]
    simp [topLevel, other]
  | noPackage text noNul clean nodes =>
    rw [read_of_text text, ofTree_of_clean (text ▸ noNul) (h _ text).flagged clean, nodes]
    rfl
  | @notDeclaration source clause t before after text noNul clean nodes clauseKind decls other =>
    have tree := h _ text
    have mem : ∀ t ∈ clause :: before, t ∈ (parse source).topLevelNodes := by
      intro t ht
      rw [nodes]
      exact List.mem_append_left _ ht
    obtain ⟨clauseMem, beforeMem⟩ := List.forall_mem_cons.1 mem
    obtain ⟨_, name, -, -, -, -, package⟩ := exists_package tree clean clauseMem clauseKind
    have first : FirstFailure (·.decl source) before t (t.diagnose (.notDeclaration t.kind)) :=
      ⟨fun u hu => by
        obtain ⟨decl, read, -⟩ := exists_declaration tree clean (beforeMem u hu) (decls u hu)
        exact ⟨decl, read⟩, decl_of_other other⟩
    rw [read_of_text text, ofTree_of_clean (text ▸ noNul) tree.flagged clean, nodes,
      List.cons_append, topLevel, if_pos clauseKind, package]
    simp [bind, Except.bind, mapM_eq_error first]

theorem scanned_eq {files : View} {info : Info} (stands : files.info path = .ok info)
    (holds : files.read path = .ok bytes) : scanned parse files path =
      (SourceFile.read parse path bytes).mapError (.parseFailed path) := by
  simp only [scanned, scanFile, Attempt.result_bind, Attempt.result_ofExcept, Attempt.result_note,
    stands, holds]
  rfl

end

namespace Sample

def text : String := "package p\nvar a, B T\n"

def node (kind : String) (named : Bool) (field : Option String) (start : Place) (stop : Nat)
    (children : List Tree) : Tree :=
  .node ⟨kind, named, field, start, stop, false, false, false, false⟩ children

def clause : Tree := node "package_clause" true none ⟨0, 0, 0⟩ 9 [
  node "package" false none ⟨0, 0, 0⟩ 7 [],
  node "package_identifier" true none ⟨8, 0, 8⟩ 9 []]

def spec : Tree := node "var_spec" true none ⟨14, 1, 4⟩ 20 [
  node "identifier" true (some "name") ⟨14, 1, 4⟩ 15 [],
  node "," false none ⟨15, 1, 5⟩ 16 [],
  node "identifier" true (some "name") ⟨17, 1, 7⟩ 18 [],
  node "type_identifier" true (some "type") ⟨19, 1, 9⟩ 20 []]

def declaration : Tree := node "var_declaration" true none ⟨10, 1, 0⟩ 20 [
  node "var" false none ⟨10, 1, 0⟩ 13 [],
  spec]

def tree : Tree := node "source_file" true none ⟨0, 0, 0⟩ 21 [clause, declaration]

/-- A parser that makes the same of every text. -/
def alwaysTree (_ : String) : Tree := tree

section
open Go Phrase

theorem derives_clause : Derives language text {} (ref "package_clause") [clause] := by
  have word : Derives language text {} (lit "package") [node "package" false none ⟨0, 0, 0⟩ 7 []] :=
    derives_lit rfl ⟨rfl, rfl, rfl⟩ rfl rfl
  have name : Derives language text {} (ref "_package_identifier")
      [node "package_identifier" true none ⟨8, 0, 8⟩ 9 []] :=
    derives_name "package_identifier" ['p'] (by decide) rfl rfl ⟨rfl, rfl, rfl⟩ rfl rfl
      (identifier_matches (by decide +kernel) (by simp))
  exact .rule package_clause_rule rfl rfl (.inr rfl) ⟨rfl, rfl, rfl⟩
    (interspersed_of_belongs (by decide)) (.next word (.next name .done))

theorem derives_spec : Derives language text {} (ref "var_spec") [spec] := by
  have a : Derives language text {} (.field "name" (ref "identifier"))
      [node "identifier" true (some "name") ⟨14, 1, 4⟩ 15 []] :=
    .field (derives_name "identifier" ['a'] (by decide) rfl rfl ⟨rfl, rfl, rfl⟩ rfl rfl
      (identifier_matches (by decide +kernel) (by simp)))
  have comma : Derives language text {} (lit ",") [node "," false none ⟨15, 1, 5⟩ 16 []] :=
    derives_lit rfl ⟨rfl, rfl, rfl⟩ rfl rfl
  have b : Derives language text {} (.field "name" (ref "identifier"))
      [node "identifier" true (some "name") ⟨17, 1, 7⟩ 18 []] :=
    .field (derives_name "identifier" ['B'] (by decide) rfl rfl ⟨rfl, rfl, rfl⟩ rfl rfl
      (identifier_matches (by decide +kernel) (by simp)))
  have names : Derives language text {} (commaSep1 (.field "name" (ref "identifier")))
      (spec.children.take 3) :=
    .next a (.next (.choice List.mem_cons_self (.once (.next comma (.next b .done)))) .done)
  have type : Derives language text {} (.field "type" (ref "_type"))
      [node "type_identifier" true (some "type") ⟨19, 1, 9⟩ 20 []] := by
    have name : Derives language text ⟨none, some "type"⟩ (ref "_type_identifier")
        [node "type_identifier" true (some "type") ⟨19, 1, 9⟩ 20 []] :=
      derives_name "type_identifier" ['T'] (by decide) rfl rfl ⟨rfl, rfl, rfl⟩ rfl rfl
        (identifier_matches (by decide +kernel) (by simp))
    exact .field (.hiddenRule rfl rfl rfl (.choice List.mem_cons_self (.hiddenRule rfl rfl rfl
      (.choice List.mem_cons_self (.weigh name)))))
  have typed : Derives language text {} (.seq [.field "type" (ref "_type"),
      opt (.seq [lit "=", .field "value" (ref "expression_list")])]) (spec.children.drop 3) :=
    .next type (.next (.choice (List.mem_cons_of_mem _ List.mem_cons_self) .blank) .done)
  exact .rule rfl rfl rfl (.inr rfl) ⟨rfl, rfl, rfl⟩ (interspersed_of_belongs (by decide))
    (.next names (.next (.choice List.mem_cons_self typed) .done))

theorem derives_declaration :
    Derives language text {} (ref "var_declaration") [declaration] := by
  have word : Derives language text {} (lit "var") [node "var" false none ⟨10, 1, 0⟩ 13 []] :=
    derives_lit rfl ⟨rfl, rfl, rfl⟩ rfl rfl
  exact .rule rfl rfl rfl (.inr rfl) ⟨rfl, rfl, rfl⟩ (interspersed_of_belongs (by decide))
    (.next word (.next (.choice List.mem_cons_self derives_spec) .done))

theorem derives_tree : Derives language text {} (ref "source_file") [tree] := by
  have ending : Derives language text {} terminator [] :=
    .choice List.mem_cons_self (.hiddenToken rfl rfl)
  have first : Derives language text {} (ref "_top_level_declaration") [clause] :=
    .hiddenRule rfl rfl rfl (.choice List.mem_cons_self derives_clause)
  have second : Derives language text {} (ref "_statement") [declaration] :=
    .hiddenRule rfl rfl rfl (.choice List.mem_cons_self (.hiddenRule rfl rfl rfl
      (.choice (List.mem_cons_of_mem _ (List.mem_cons_of_mem _ List.mem_cons_self))
        derives_declaration)))
  let item : Phrase := oneOf [
    .seq [ref "_statement", terminator],
    .seq [ref "_top_level_declaration", terminator]]
  have first : Derives language text {} item [clause] :=
    .choice (List.mem_cons_of_mem _ List.mem_cons_self) (.next first (.next ending .done))
  have second : Derives language text {} item [declaration] :=
    .choice List.mem_cons_self (.next second (.next ending .done))
  have items : Derives language text {} (many item) [clause, declaration] :=
    .choice List.mem_cons_self (.again first (.once second))
  exact .rule rfl rfl rfl (.inr rfl) ⟨rfl, rfl, rfl⟩ (interspersed_of_belongs (by decide))
    (.next items (.next (.choice (List.mem_cons_of_mem _ List.mem_cons_self) .blank) .done))

end

theorem spans_tree : ∀ u ∈ tree.preorder, u.Spans text := by
  have single : ∀ k ≤ 21, (Utf8.encode (text.toList.take k)).length = k := by decide
  exact spans_of_single single (by decide)

theorem treeOf : Go.TreeOf text tree :=
  ⟨.inr derives_tree, by decide, spans_tree⟩

theorem eq_text {source : String} (h : Utf8.encode text.toList = Utf8.encode source.toList) :
    source = text :=
  (String.toList_injective (Utf8.encode_injective h)).symm

def files : FileSystem where
  root := .directory [("a.go", .file (Utf8.encode text.toList))]
  workingDirectory := []
  sound := .directory (by decide) (by decide) (by simpa using .file _)
  standing := rfl

def file : SourceFile := ⟨"a.go", ⟨"p", 1⟩, [.values [⟨"a", 2⟩, ⟨"B", 2⟩]]⟩

theorem resolve_eq (creating : Bool) :
    files.resolve creating "a.go" = .ok (.present ["a.go"]) := by
  have names : steps "a.go" = ["a.go"] := by decide
  have followed : FileSystem.Followed "a.go" := ⟨by decide, by decide, by decide⟩
  have lookedUp : LookedUp creating "a.go" [] := ⟨by decide, by decide, by simp, by decide⟩
  refine FileSystem.resolve_eq_ok_iff.2 ⟨followed, ?_⟩
  rw [names]
  exact .file lookedUp rfl

theorem node_eq : files.node "a.go" = .ok (.file (Utf8.encode text.toList)) := by
  rw [FileSystem.node, resolve_eq]
  rfl

theorem info_eq : files.view.info "a.go" = .ok ⟨false, 21⟩ := by
  change Node.info <$> files.node "a.go" = _
  rw [node_eq]
  decide

theorem read_eq : files.view.read "a.go" = .ok (Utf8.encode text.toList) := by
  change files.read "a.go" = _
  rw [FileSystem.read, node_eq]
  rfl

theorem scanned_tree : scanned (fun _ => tree) files.view "a.go" = .ok file := by
  rw [scanned_eq info_eq read_eq]
  decide +kernel

/-- A directory that holds the sample, and a link to it. -/
def linked : FileSystem where
  root := .directory [("d", .directory [("a.go", .file (Utf8.encode text.toList))]),
    ("l", .link "d/")]
  workingDirectory := []
  sound := by
    refine .directory (by decide) (by decide) ?_
    rintro _ (_ | ⟨_, _ | ⟨_, ⟨⟩⟩⟩)
    · exact .directory (by decide) (by decide) (by simpa using .file _)
    · exact .link (by decide)
  standing := rfl

theorem resolve_directory : linked.resolve false "d" = .ok (.present ["d"]) := by
  have names : steps "d" = ["d"] := by decide
  have followed : FileSystem.Followed "d" := ⟨by decide, by decide, by decide⟩
  have d : LookedUp false "d" [] := ⟨by decide, by decide, by decide, by decide⟩
  refine FileSystem.resolve_eq_ok_iff.2 ⟨followed, ?_⟩
  rw [names]
  exact .down d rfl (.arrive _ _)

theorem resolve_link : linked.resolve false "l/." = .ok (.present ["d"]) := by
  have names : steps "l/." = ["l", "."] := by decide
  have behind : steps "d/" = ["d", ""] := by decide
  have followed : FileSystem.Followed "l/." := ⟨by decide, by decide, by decide⟩
  have l : LookedUp false "l" ["."] := ⟨by decide, by decide, by decide, by decide⟩
  have d : LookedUp false "d" ["", "."] := ⟨by decide, by decide, by decide, by decide⟩
  refine FileSystem.resolve_eq_ok_iff.2 ⟨followed, ?_⟩
  rw [names]
  refine .link l rfl (by decide) ?_
  rw [behind]
  exact .down d rfl (.stay (.inl rfl) (.stay (.inr rfl) (.arrive _ _)))

end Sample

end TagIndex
