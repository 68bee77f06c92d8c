import TagIndex.Proofs.Run.ReadBack

/-! A tag is recovered from its line, whatever its path is. A path may hold tabs, and text that
looks like a line number with its mark; but what the first tab and the last two cut off is no part
of it. -/

namespace TagIndex
open Text

/-- A line cut at its first tab and at its last two. -/
structure CutAtTabs (line name file address kind : List Char) : Prop where
  split : line = name ++ '\t' :: (file ++ '\t' :: (address ++ '\t' :: kind))
  first : '\t' ∉ name
  lastButOne : '\t' ∉ address
  last : '\t' ∉ kind

theorem CutAtTabs.unique {line name name' file file' address address' kind kind' : List Char}
    (h : CutAtTabs line name file address kind) (h' : CutAtTabs line name' file' address' kind') :
    name = name' ∧ file = file' ∧ address = address' ∧ kind = kind' := by
  obtain ⟨names, rest⟩ := append_separator_inj h.first h'.first (h.split.symm.trans h'.split)
  -- From the end now: the path between may hold any number of tabs.
  have fromEnd : (file ++ '\t' :: address) ++ '\t' :: kind =
      (file' ++ '\t' :: address') ++ '\t' :: kind' := by
    simpa using rest
  obtain ⟨front, kinds⟩ := append_separator_inj_of_last h.last h'.last fromEnd
  obtain ⟨files, addresses⟩ := append_separator_inj_of_last h.lastButOne h'.lastButOne front
  exact ⟨names, files, addresses, kinds⟩

namespace Tag

variable {t u : Tag}

theorem cutAtTabs_text (noTab : '\t' ∉ t.name.toList) :
    CutAtTabs t.text.toList t.name.toList t.file.toList (Nat.toDigits 10 t.line ++ [';', '"'])
      [t.kind.letter] where
  split := by simp [text_eq, fields, List.intercalate]
  first := noTab
  lastButOne := not_mem_address (by decide) t.line
  last := not_mem_letter (by decide) t.kind

theorem parts_of_cutAtTabs (noTab : '\t' ∉ t.name.toList) {name file address kind : List Char}
    (cut : CutAtTabs t.text.toList name file address kind) :
    name = t.name.toList ∧ file = t.file.toList ∧ lineNumber? address = some t.line ∧
      TagKind.ofLetter? kind = some t.kind := by
  obtain ⟨rfl, rfl, rfl, rfl⟩ := cut.unique (cutAtTabs_text noTab)
  exact ⟨rfl, rfl, lineNumber?_address t.line, TagKind.ofLetter?_letter t.kind⟩

theorem text_eq_iff (noTab : '\t' ∉ t.name.toList) (noTab' : '\t' ∉ u.name.toList) :
    t.text = u.text ↔ t = u := by
  refine ⟨fun same => ?_, congrArg text⟩
  have cut := cutAtTabs_text noTab
  rw [same] at cut
  obtain ⟨name, file, line, kind⟩ := parts_of_cutAtTabs noTab' cut
  rw [lineNumber?_address] at line
  rw [TagKind.ofLetter?_letter] at kind
  cases t
  cases u
  simp_all [String.toList_inj]

end Tag

theorem eq_of_bytesLe {a b : String} (le : bytesLe a b = true) (ge : bytesLe b a = true) :
    a = b :=
  String.toList_injective (Utf8.encode_injective
    (List.le_antisymm (bytesLe_iff.1 le) (bytesLe_iff.1 ge)))

/-- The line of a tag whose name has no tab in it can be cut at its first tab and at its last two.
However it is cut in this way, the name is what stands before the first tab, the path what stands
between the first and the last but one, the line number what stands before the mark between the last
two, and the kind what the letter after the last says. So two such tags have the same line only if
they are equal, and the order of lines tells any two of them apart. -/
theorem line_identifies_tag {t : Tag} (noTab : '\t' ∉ t.name.toList) :
    (∃ name file address kind, CutAtTabs t.text.toList name file address kind) ∧
    (∀ name file address kind, CutAtTabs t.text.toList name file address kind →
      name = t.name.toList ∧ file = t.file.toList ∧ lineNumber? address = some t.line ∧
        TagKind.ofLetter? kind = some t.kind) ∧
    ∀ u : Tag, '\t' ∉ u.name.toList →
      (t.text = u.text ↔ t = u) ∧
      (bytesLe t.text u.text = true ∧ bytesLe u.text t.text = true ↔ t = u) := by
  refine ⟨⟨_, _, _, _, Tag.cutAtTabs_text noTab⟩,
    fun name file address kind => Tag.parts_of_cutAtTabs noTab,
    fun u noTab' => ⟨Tag.text_eq_iff noTab noTab', ?_⟩⟩
  rw [← Tag.text_eq_iff noTab noTab']
  constructor
  · rintro ⟨le, ge⟩
    exact eq_of_bytesLe le ge
  · intro same
    rw [same]
    exact ⟨bytesLe_iff.2 (List.le_refl _), bytesLe_iff.2 (List.le_refl _)⟩

/-- The path of this tag holds tabs, and a line number with its mark and a kind of its own. -/
def Sample.imitating : Tag := ⟨"p.F", "a\t7;\"\tf\n.go", 18446744073709551615, .type⟩

theorem line_identifies_imitating :
    (∃ name file address kind, CutAtTabs Sample.imitating.text.toList name file address kind) ∧
    (∀ name file address kind, CutAtTabs Sample.imitating.text.toList name file address kind →
      name = "p.F".toList ∧ file = "a\t7;\"\tf\n.go".toList ∧
        lineNumber? address = some 18446744073709551615 ∧ TagKind.ofLetter? kind = some .type) ∧
    ∀ u : Tag, '\t' ∉ u.name.toList →
      (Sample.imitating.text = u.text ↔ Sample.imitating = u) ∧
      (bytesLe Sample.imitating.text u.text = true ∧ bytesLe u.text Sample.imitating.text = true ↔
        Sample.imitating = u) :=
  line_identifies_tag (t := Sample.imitating) (by decide)

/-- With a tab in its name, a tag may be taken for one with another path. -/
example : (⟨"a\tb", "c", 1, .type⟩ : Tag).text = (⟨"a", "b\tc", 1, .type⟩ : Tag).text := by
  decide +kernel

end TagIndex
