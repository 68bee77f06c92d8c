import TagIndex.Proofs.Run.TagFile
import TagIndex.Proofs.Tag.Sites

/-! The records of a tag file are in the order of their names, as its header says. They are sorted
as whole lines, but a tab comes before every byte of a name, so the names decide first. -/

namespace TagIndex
open Files Text

def tab : UInt8 := 9

/-- The name of a record, whatever else the record holds. -/
def nameField (record : String) : List UInt8 := firstField tab (Utf8.encode record.toList)

structure IsNameText (text : List Char) : Prop where
  nonempty : text ≠ []
  chars : ∀ c ∈ text, '.'.toNat ≤ c.toNat

theorem isNameText_of_identifier {text : List Char} (nonempty : text ≠ [])
    (chars : ∀ c ∈ text, 48 ≤ c.toNat) : IsNameText text :=
  ⟨nonempty, fun c mem => Nat.le_trans (by decide) (chars c mem)⟩

theorem IsNameText.qualified {package name : List Char} (h : IsNameText package)
    (h' : IsNameText name) : IsNameText (package ++ '.' :: name) := by
  refine ⟨by simp, fun c mem => ?_⟩
  obtain inPackage | mem := List.mem_append.1 mem
  · exact h.chars c inPackage
  · obtain rfl | inName := List.mem_cons.1 mem
    · exact Nat.le_refl _
    · exact h'.chars c inName

theorem IsNameText.bytes {text : List Char} (h : IsNameText text) :
    ∀ b ∈ Utf8.encode text, 46 ≤ b.toNat :=
  least_encode (by decide) h.chars

theorem IsNameText.tab_lt {text : List Char} (h : IsNameText text) :
    ∀ b ∈ Utf8.encode text, tab < b := by
  intro b mem
  have least : 46 ≤ b.toNat := h.bytes b mem
  have code : tab.toNat = 9 := rfl
  exact UInt8.lt_iff_toNat_lt.2 (by omega)

section

variable {parse : String → Tree} {bytes : List UInt8} {path : String} {file : SourceFile}

theorem isNameText_of_mem_idents (tree : ∀ source, Go.TreeOf source (parse source))
    (read : SourceFile.read parse path bytes = .ok file) :
    ∀ i ∈ file.idents, IsNameText i.name.toList := by
  obtain ⟨source, rfl, clean, idents, names⟩ := exists_source (fun source _ => tree source) read
  intro i mem
  obtain ⟨n, listed, ident⟩ := exists_mem_of_forall₂ idents mem
  have below := mem_preorder_of_tagNodes listed
  have present : n.label.missing = false := (Bool.or_eq_false_iff.1 (clean n below)).2
  obtain ⟨before, text, splits⟩ := ((tree source).spans n below).splits
  obtain ⟨some_char, chars⟩ := (names n listed).chars present splits
  have name : i.name.toList = text := by
    rw [splits.ident] at ident
    simp [← Except.ok.inj ident]
  exact name ▸ isNameText_of_identifier some_char chars

theorem isNameText_of_mem_tags (tree : ∀ source, Go.TreeOf source (parse source))
    (read : SourceFile.read parse path bytes = .ok file) :
    ∀ tag ∈ file.tags, IsNameText tag.name.toList := by
  intro tag mem
  have idents := isNameText_of_mem_idents tree read
  have about : List.Forall₂ (fun i tag => Tag.About file.package.name tag i) file.idents
      file.tags := file.tags_about.flip
  obtain ⟨i, listed, about⟩ := exists_mem_of_forall₂ about mem
  have package := idents file.package List.mem_cons_self
  obtain bare | qualified := about.name
  · exact bare ▸ idents i listed
  · have split : tag.name.toList = file.package.name.toList ++ '.' :: i.name.toList := by
      simp [qualified]
    exact split ▸ package.qualified (idents i listed)

theorem Tag.encode_text (t : Tag) :
    ∃ rest, Utf8.encode t.text.toList = Utf8.encode t.name.toList ++ tab :: rest := by
  obtain ⟨rest, split⟩ : ∃ rest, t.text.toList = t.name.toList ++ '\t' :: rest := by
    simp [Tag.text]
  refine ⟨Utf8.encode rest, ?_⟩
  rw [split, Utf8.encode_append, Utf8.encode_cons]
  rfl

theorem nameField_text {t : Tag} (h : IsNameText t.name.toList) :
    nameField t.text = Utf8.encode t.name.toList := by
  obtain ⟨rest, split⟩ := t.encode_text
  have apart : tab ∉ Utf8.encode t.name.toList := fun mem => UInt8.lt_irrefl _ (h.tab_lt _ mem)
  rw [nameField, split, firstField_append apart]

theorem nameField_le_of_text_le {t u : Tag} (ht : IsNameText t.name.toList)
    (hu : IsNameText u.name.toList)
    (h : Utf8.encode t.text.toList ≤ Utf8.encode u.text.toList) :
    nameField t.text ≤ nameField u.text := by
  rw [nameField_text ht, nameField_text hu]
  obtain ⟨r, first⟩ := t.encode_text
  obtain ⟨s, second⟩ := u.encode_text
  rw [first, second] at h
  exact le_of_line_le ht.tab_lt hu.tab_lt h

theorem header_lt_text {t : Tag} (h : IsNameText t.name.toList) :
    Utf8.encode tagFileHeader.toList < Utf8.encode t.text.toList := by
  obtain ⟨rest, split⟩ := t.encode_text
  have some_byte : Utf8.encode t.name.toList ≠ [] := mt Utf8.encode_eq_nil_iff.1 h.nonempty
  obtain ⟨b, name, first⟩ := List.exists_cons_of_ne_nil some_byte
  have least : 46 ≤ b.toNat := h.bytes b (by simp [first])
  have header : Utf8.encode tagFileHeader.toList =
      33 :: Utf8.encode "_TAG_FILE_SORTED\t1\t".toList := by
    decide
  rw [header, split, first, List.cons_append, List.cons_lt_cons_iff]
  exact .inl (UInt8.lt_iff_toNat_lt.2 (Nat.lt_of_lt_of_le (by decide) least))

theorem read_of_scanned {files : View} (h : scanned parse files path = .ok file) :
    ∃ bytes, SourceFile.read parse path bytes = .ok file := by
  simp only [scanned, scanFile, Attempt.result_bind, Attempt.result_ofExcept, Attempt.result_note,
    bind_eq_ok_iff] at h
  obtain ⟨info, -, -, -, bytes, -, read⟩ := h
  refine ⟨bytes, ?_⟩
  cases done : SourceFile.read parse path bytes <;> simp_all [Except.mapError]

/-- The records of a run are in ascending order of their names, so those of one name stand together;
the header line comes before all of them. -/
theorem records_ordered_by_name (parse : String → Tree) (fs : FileSystem) (o : Options)
    (sink : Sink) (tree : ∀ source, Go.TreeOf source (parse source))
    (h : (run parse fs o sink).result = .ok ()) :
    ∃ inputs sources records, (o.inputs fs.view).result = .ok inputs ∧
      List.Forall₂ (fun path source => scanned parse fs.view path = .ok source) inputs sources ∧
      records.Perm (sources.flatMap fun source => source.tags.map (·.text)) ∧
      o.Delivered fs (run parse fs o sink) (Utf8.encode (tagFileText records)) ∧
      (∀ source ∈ sources, ∀ tag ∈ source.tags,
        nameField tag.text = Utf8.encode tag.name.toList) ∧
      records.Pairwise (fun a b => nameField a ≤ nameField b) ∧
      (∀ a b c, [a, b, c].Sublist records → nameField a = nameField c →
        nameField b = nameField a) ∧
      ∀ r ∈ records, Utf8.encode tagFileHeader.toList < Utf8.encode r.toList := by
  obtain ⟨tags, gathered, deliverable, fits⟩ := result_run_eq_ok_iff.1 h
  obtain ⟨inputs, sources, found, scans, lines⟩ := result_gatherTags_eq_ok_iff.1 gathered
  have names : ∀ source ∈ sources, ∀ tag ∈ source.tags, IsNameText tag.name.toList := by
    intro source mem
    obtain ⟨path, -, scan⟩ := exists_mem_of_forall₂ scans mem
    obtain ⟨bytes, read⟩ := read_of_scanned scan
    exact isNameText_of_mem_tags tree read
  have perm : tags.sorted.Perm (recordsOf sources) := by
    subst lines
    exact TagList.sorted_perm _
  have fromTag : ∀ r ∈ tags.sorted, ∃ tag : Tag, IsNameText tag.name.toList ∧ tag.text = r := by
    intro r mem
    obtain ⟨source, listed, mem⟩ := List.mem_flatMap.1 (perm.mem_iff.1 mem)
    obtain ⟨tag, tagged, rfl⟩ := List.mem_map.1 mem
    exact ⟨tag, names source listed tag tagged, rfl⟩
  have order : tags.sorted.Pairwise fun a b => nameField a ≤ nameField b := by
    refine tags.pairwise_sorted.imp_of_mem fun {a b} ha hb le => ?_
    obtain ⟨t, ht, rfl⟩ := fromTag a ha
    obtain ⟨u, hu, rfl⟩ := fromTag b hb
    exact nameField_le_of_text_le ht hu le
  refine ⟨inputs, sources, tags.sorted, found, scans, perm, ?_,
    fun source mem tag tagged => nameField_text (names source mem tag tagged), order, ?_, ?_⟩
  · rw [run_of_ok gathered, ← tags.fileBytes_eq]
    exact delivered_delivered deliverable fits
  · intro a b c sub same
    obtain ⟨first, second, -⟩ : (nameField a ≤ nameField b ∧ nameField a ≤ nameField c) ∧
        nameField b ≤ nameField c ∧ True := by
      simpa using order.sublist sub
    exact List.le_antisymm (same ▸ second) first.1
  · intro r mem
    obtain ⟨t, ht, rfl⟩ := fromTag r mem
    exact header_lt_text ht

end

namespace Sample

/-- The tree of the sample, and for other texts one that makes nothing of them. -/
def parse (source : String) : Tree :=
  if source = text then tree
  else .node ⟨"ERROR", true, none, ⟨0, 0, 0⟩, 0, false, true, false, true⟩ []

theorem treeOf_parse (source : String) : Go.TreeOf source (parse source) := by
  unfold parse
  split
  · rename_i same
    exact same ▸ treeOf
  · have start : Boundary source 0 := ⟨[], List.nil_prefix, rfl⟩
    refine ⟨.inl rfl, ?_, ?_⟩
    · unfold Tree.Flagged
      decide
    · intro u mem
      obtain rfl : u = _ := List.mem_singleton.1 mem
      exact ⟨start, start, Nat.le_refl 0⟩

theorem scanned_parse : scanned parse files.view "a.go" = .ok file := by
  have same := scanned_tree
  rw [scanned_eq info_eq read_eq, read_of_text rfl] at same ⊢
  rwa [parse, if_pos rfl]

theorem result_run_parse : (run parse files overwriting).result = .ok () := by
  refine result_run_eq_ok_iff.2 ⟨_, result_gatherTags_eq_ok_iff.2 ⟨["a.go", "a.go"], _, rfl,
    .cons scanned_parse (.cons scanned_parse .nil), rfl⟩, ?_, TagList.fits_unlimited _⟩
  rintro path ⟨⟩
  refine ⟨["a.go"], ?_⟩
  rw [FileSystem.target, resolve_eq]
  rfl

end Sample

theorem records_ordered_by_name_overwriting :
    ∃ inputs sources records, (Sample.overwriting.inputs Sample.files.view).result = .ok inputs ∧
      List.Forall₂ (fun path source => scanned Sample.parse Sample.files.view path = .ok source)
        inputs sources ∧
      records.Perm (sources.flatMap fun source => source.tags.map (·.text)) ∧
      Sample.overwriting.Delivered Sample.files
        (run Sample.parse Sample.files Sample.overwriting) (Utf8.encode (tagFileText records)) ∧
      (∀ source ∈ sources, ∀ tag ∈ source.tags,
        nameField tag.text = Utf8.encode tag.name.toList) ∧
      records.Pairwise (fun a b => nameField a ≤ nameField b) ∧
      (∀ a b c, [a, b, c].Sublist records → nameField a = nameField c →
        nameField b = nameField a) ∧
      ∀ r ∈ records, Utf8.encode tagFileHeader.toList < Utf8.encode r.toList :=
  records_ordered_by_name _ _ _ _ Sample.treeOf_parse Sample.result_run_parse

end TagIndex
