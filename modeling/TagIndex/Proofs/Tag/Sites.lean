import TagIndex.Proofs.Source.Acceptance
import TagIndex.Proofs.Go.Identifier
import TagIndex.Proofs.Text.Lines

/-! Tags point at the identifiers that they are about: each tag of a file has a place of its own in
the text where its identifier stands, and these places come in the order of the tags. -/

namespace TagIndex
open Files Text TagIndex.Tree

def SourceFile.idents (f : SourceFile) : List Ident := f.package :: f.decls.flatMap Decl.names

structure Tag.About (package : String) (tag : Tag) (i : Ident) : Prop where
  name : tag.name = i.name ∨ tag.name = package ++ "." ++ i.name
  line : tag.line = i.line

theorem qualify_cases (package name : String) :
    qualify package name = name ∨ qualify package name = package ++ "." ++ name := by
  unfold qualify
  split
  · exact .inl rfl
  · exact .inr rfl

theorem Decl.tags_about (file package : String) (d : Decl) :
    List.Forall₂ (Tag.About package) (d.tags file package) d.names := by
  cases d with
  | function hasReceiver name =>
    cases hasReceiver with
    | true => exact .cons ⟨.inl rfl, rfl⟩ .nil
    | false => exact .cons ⟨qualify_cases _ _, rfl⟩ .nil
  | imports => exact .nil
  | types names =>
    exact List.forall₂_map_left_iff.2 (List.forall₂_same.2 fun _ _ => ⟨.inl rfl, rfl⟩)
  | values names =>
    exact List.forall₂_map_left_iff.2 (List.forall₂_same.2 fun _ _ => ⟨qualify_cases _ _, rfl⟩)

theorem SourceFile.tags_about (f : SourceFile) :
    List.Forall₂ (Tag.About f.package.name) f.tags f.idents := by
  have same : List.Forall₂ Eq f.decls f.decls := List.forall₂_refl _
  refine .cons ⟨.inl rfl, rfl⟩ (List.rel_flatMap same ?_)
  rintro d _ rfl
  exact d.tags_about f.path f.package.name

/-- The nodes of the names that a top-level node gives to a file. -/
def Tree.topNames (t : Tree) : List Tree :=
  if t.kind = "package_clause" then t.packageNode?.toList else t.declaredNames

def Tree.tagNodes (t : Tree) : List Tree := t.topLevelNodes.flatMap topNames

theorem inOrder_tagNodes {t : Tree} (nested : t.Nested) :
    InOrder t.start.byte t.label.stop t.tagNodes := by
  have sub : t.topLevelNodes.Sublist t.children := List.filter_sublist.trans List.filter_sublist
  refine (nested.children.sublist sub).flatMap fun c listed => ?_
  have inner := nested.child (mem_children_of_topLevelNodes listed)
  unfold topNames
  split
  · exact inner.children.sublist c.packageNode?_sublist
  · exact inOrder_declaredNames inner

variable {parse : String → Tree} {bytes : List UInt8} {source path : String} {file : SourceFile}

theorem exists_source (tree : ∀ source, bytes = Utf8.encode source.toList →
    Go.TreeOf source (parse source)) (read : SourceFile.read parse path bytes = .ok file) :
    ∃ source, bytes = Utf8.encode source.toList ∧ (parse source).Clean ∧
      List.Forall₂ (fun n i => n.ident source = .ok i) (parse source).tagNodes file.idents ∧
      ∀ n ∈ (parse source).tagNodes, Go.IsName source n := by
  obtain ⟨source, clause, decls, accepted⟩ | ⟨d, refused⟩ := accepted_or_refused parse bytes
  swap
  · rw [read_of_refused tree refused] at read
    cases read
  obtain ⟨text, noNul, clean, nodes, clauseKind, declKinds⟩ := accepted
  have isTree := tree source text
  have mem : ∀ t ∈ clause :: decls, t ∈ (parse source).topLevelNodes := by simp [nodes]
  obtain ⟨clauseMem, declsMem⟩ := List.forall_mem_cons.1 mem
  obtain ⟨n, name, found, isName, below, ident, package⟩ :=
    exists_package isTree clean clauseMem clauseKind
  rw [read_of_text text, ofTree_of_clean (text ▸ noNul) isTree.flagged clean, nodes,
    map_eq_ok_iff] at read
  obtain ⟨⟨pkg, ds⟩, top, rfl⟩ := read
  obtain ⟨-, package', declsRead⟩ := topLevel_eq_ok_iff.1 top
  obtain rfl : name = pkg := Except.ok.inj (package.symm.trans package')
  have clauseNames : clause.topNames = [n] := by simp [topNames, clauseKind, found]
  have declNames : ∀ t ∈ decls, t.topNames = t.declaredNames := by
    intro t listed
    have other : t.kind ≠ "package_clause" := by
      intro kind
      simpa [kind, Go.declarationKinds] using declKinds t listed
    simp [topNames, other]
  refine ⟨source, text, clean, ?_, ?_⟩
  · rw [tagNodes, nodes, List.flatMap_cons, clauseNames]
    have each : List.Forall₂ (fun t d => t ∈ decls ∧ t.decl source = .ok d) decls ds :=
      (List.forall₂_and_left _ _).2 ⟨fun t listed => listed, mapM_eq_ok_iff.1 declsRead⟩
    -- Reading a declaration reads its nodes one by one, so both lists are cut at the same places.
    refine .cons ident (List.rel_flatMap each ?_)
    rintro t d ⟨listed, done⟩
    obtain ⟨d', done', names⟩ :=
      exists_declaration isTree clean (declsMem t listed) (declKinds t listed)
    obtain rfl : d = d' := Except.ok.inj (done.symm.trans done')
    rw [declNames t listed]
    exact names
  · intro n' mem
    rw [tagNodes, nodes, List.flatMap_cons, clauseNames] at mem
    obtain rfl | mem := List.mem_cons.1 mem
    · exact isName
    · obtain ⟨t, listed, mem⟩ := List.mem_flatMap.1 mem
      have phrase := isPhrase_of_mem isTree clean (declsMem t listed)
        (List.mem_cons_of_mem _ (declKinds t listed))
      have child := mem_children_of_topLevelNodes (declsMem t listed)
      exact Go.isName_of_declaredNames (declKinds t listed) phrase (clean.child child)
        (declNames t listed ▸ mem)

theorem lineFeed_not_mem_encode {text : List Char} (chars : ∀ c ∈ text, 48 ≤ c.toNat) :
    lineFeed ∉ Utf8.encode text := by
  intro mem
  obtain ⟨c, listed, inside⟩ := List.mem_flatMap.1 mem
  have same := Utf8.eq_of_mem_utf8EncodeChar inside (by decide)
  have feed : lineFeed.toNat = 10 := rfl
  have least := chars c listed
  omega

theorem Go.IsName.chars {n : Tree} {before text : List Char} (h : Go.IsName source n)
    (present : n.label.missing = false) (splits : n.Splits source before text) :
    text ≠ [] ∧ ∀ c ∈ text, 48 ≤ c.toNat := by
  obtain missing | ⟨text', spelled, found | ⟨-, -, atEnd⟩⟩ := h.spelled.spelled
  · simp [present] at missing
  · obtain rfl := Utf8.encode_injective (splits.bytesIn.symm.trans spelled)
    exact Go.identifier_chars found
  · have least := (Go.identifier_chars atEnd).2 '\x00' (by simp)
    exact absurd least (by decide)

structure Site where
  name : String
  /-- In bytes from the beginning. -/
  offset : Nat
deriving Repr

structure Tag.PointsAt (bytes : List UInt8) (package : String) (tag : Tag) (site : Site) :
    Prop where
  name : tag.name = site.name ∨ tag.name = package ++ "." ++ site.name
  nonempty : site.name ≠ ""
  text : Utf8.encode site.name.toList <+: bytes.drop site.offset
  line : tag.line = (bytes.take site.offset).count lineFeed + 1
  shown : ∃ line, (linesOf bytes)[tag.line - 1]? = some line ∧
    Utf8.encode site.name.toList <:+: line

def Tree.site (source : String) (n : Tree) : Site :=
  ⟨((n.ident source).map (·.name)).toOption.getD "", n.start.byte⟩

theorem pointsAt_site {n : Tree} {i : Ident} {tag : Tag} {package : String}
    (isName : Go.IsName source n) (present : n.label.missing = false) (spans : n.Spans source)
    (row : n.start.row = ((Utf8.encode source.toList).take n.start.byte).count lineFeed)
    (ident : n.ident source = .ok i) (about : tag.About package i) :
    tag.PointsAt (Utf8.encode source.toList) package (n.site source) := by
  obtain ⟨before, text, splits⟩ := spans.splits
  obtain ⟨some_char, chars⟩ := isName.chars present splits
  have site : n.site source = ⟨String.ofList text, n.start.byte⟩ := by
    rw [Tree.site, splits.ident]
    rfl
  obtain rfl := Except.ok.inj (splits.ident.symm.trans ident)
  obtain ⟨⟨after, split⟩, start, -⟩ := splits
  have bytes : Utf8.encode source.toList =
      Utf8.encode before ++ Utf8.encode text ++ Utf8.encode after := by
    rw [← split, Utf8.encode_append, Utf8.encode_append]
  have feeds : tag.line = (Utf8.encode before).count lineFeed + 1 := by
    rw [about.line, row, bytes, start, List.append_assoc, List.take_left]
  obtain ⟨line, found, within⟩ :=
    exists_line (lineFeed_not_mem_encode chars) (Utf8.encode before) (Utf8.encode after)
  rw [site, bytes]
  refine ⟨about.name, ?_, ?_, ?_, line, ?_, ?_⟩
  · simpa using some_char
  · rw [start, List.append_assoc, List.drop_left, String.toList_ofList]
    exact List.prefix_append _ _
  · rw [start, List.append_assoc, List.take_left, feeds]
  · rw [feeds, Nat.add_sub_cancel, found]
  · rwa [String.toList_ofList]

theorem site_name {n : Tree} {i : Ident} (ident : n.ident source = .ok i) :
    (n.site source).name = i.name := by
  rw [Tree.site, ident]
  rfl

theorem start_lt_stop {n : Tree} (isName : Go.IsName source n) (present : n.label.missing = false)
    (spans : n.Spans source) : n.start.byte < n.label.stop := by
  obtain ⟨before, text, splits⟩ := spans.splits
  have some_byte := List.length_pos_iff.2
    (mt Utf8.encode_eq_nil_iff.1 (isName.chars present splits).1)
  rw [splits.start, splits.stop]
  omega

theorem mem_preorder_of_tagNodes {t n : Tree} (h : n ∈ t.tagNodes) : n ∈ t.preorder := by
  obtain ⟨c, listed, below⟩ := List.mem_flatMap.1 h
  refine mem_preorder_of_child (mem_children_of_topLevelNodes listed) ?_
  unfold topNames at below
  split at below
  · exact mem_preorder_of_child (c.packageNode?_sublist.subset below) (self_mem_preorder n)
  · exact mem_preorder_of_declaredNames below

theorem lines_of_pointsAt {package : String} {tags : List Tag} {sites : List Site}
    (h : List.Forall₂ (Tag.PointsAt bytes package) tags sites)
    (order : sites.Pairwise fun a b => a.offset < b.offset) :
    tags.Pairwise fun a b => a.line ≤ b.line := by
  have lines := map_eq_of_forall₂ (h.imp fun _ _ pointsAt => pointsAt.line)
  refine List.pairwise_map.1 (lines ▸ List.pairwise_map.2 (order.imp fun {a b} before => ?_))
  exact Nat.add_le_add_right
    ((List.take_prefix_take_left (Nat.le_of_lt before)).sublist.count_le _) 1

/-- Every tag of a file that scans points at a site of its own: there its identifier stands in the
bytes of the file, and the line of the tag is the line there. The sites come in the order of the
tags, so the lines never decrease and no identifier has two tags. -/
theorem tags_point_at_identifiers {files : View} {info : Info}
    (stands : files.info path = .ok info) (holds : files.read path = .ok bytes)
    (tree : ∀ source, bytes = Utf8.encode source.toList → Go.TreeOf source (parse source) ∧
      (parse source).Nested ∧ (parse source).RowsCounted source)
    (scan : scanned parse files path = .ok file) :
    ∃ sites : List Site, sites.map (·.name) = file.idents.map (·.name) ∧
      List.Forall₂ (Tag.PointsAt bytes file.package.name) file.tags sites ∧
      sites.Pairwise (fun a b => a.offset < b.offset) ∧
      file.tags.Pairwise fun a b => a.line ≤ b.line := by
  rw [scanned_eq stands holds] at scan
  obtain read : SourceFile.read parse path bytes = .ok file := by
    cases read : SourceFile.read parse path bytes <;> simp_all [Except.mapError]
  obtain ⟨source, rfl, clean, idents, names⟩ := exists_source (fun s text => (tree s text).1) read
  obtain ⟨isTree, nested, rows⟩ := tree source rfl
  have present : ∀ n ∈ (parse source).tagNodes, n.label.missing = false := fun n mem =>
    (Bool.or_eq_false_iff.1 (clean n (mem_preorder_of_tagNodes mem))).2
  have spans : ∀ n ∈ (parse source).tagNodes, n.Spans source := fun n mem =>
    isTree.spans n (mem_preorder_of_tagNodes mem)
  have pointing : List.Forall₂ (Tag.PointsAt (Utf8.encode source.toList) file.package.name)
      file.tags ((parse source).tagNodes.map (·.site source)) := by
    have each := (List.forall₂_and_left (p := (· ∈ (parse source).tagNodes)) _ _).2
      ⟨fun n listed => listed, idents⟩
    refine List.forall₂_map_right_iff.2 ((forall₂_join file.tags_about each).imp ?_)
    rintro tag n ⟨i, about, listed, ident⟩
    exact pointsAt_site (names n listed) (present n listed) (spans n listed)
      (rows n (mem_preorder_of_tagNodes listed)) ident about
  have order : ((parse source).tagNodes.map (·.site source)).Pairwise
      fun a b => a.offset < b.offset := by
    refine List.pairwise_map.2 ((inOrder_tagNodes nested).apart.imp_of_mem ?_)
    intro a b ha hb before
    exact Nat.lt_of_lt_of_le (start_lt_stop (names a ha) (present a ha) (spans a ha)) before
  refine ⟨_, ?_, pointing, order, lines_of_pointsAt pointing order⟩
  rw [List.map_map]
  exact map_eq_of_forall₂ (idents.imp fun n i ident => site_name ident)

theorem Sample.geometry : Sample.tree.Nested ∧ Sample.tree.RowsCounted Sample.text := by
  decide

theorem tags_point_at_sample :
    ∃ sites : List Site, sites.map (·.name) = Sample.file.idents.map (·.name) ∧
      List.Forall₂ (Tag.PointsAt (Utf8.encode Sample.text.toList) Sample.file.package.name)
        Sample.file.tags sites ∧
      sites.Pairwise (fun a b => a.offset < b.offset) ∧
      Sample.file.tags.Pairwise fun a b => a.line ≤ b.line := by
  refine tags_point_at_identifiers Sample.info_eq Sample.read_eq (fun source text => ?_)
    Sample.scanned_tree
  rw [Sample.eq_text text]
  exact ⟨Sample.treeOf, Sample.geometry⟩

/-- A name with an upper-case letter at its beginning comes with its package. -/
example : Sample.file.tags.map (·.name) = ["p", "a", "p.B"] := by
  decide +kernel

end TagIndex
