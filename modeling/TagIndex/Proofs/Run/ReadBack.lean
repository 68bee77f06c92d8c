import TagIndex.Proofs.Data.Splitting
import TagIndex.Proofs.Run.ByName

/-! Reading a tag file back. Paths are written as they are, so a tag file can be read back line by
line and field by field exactly when the paths of all inputs are plain, without tabs and line
feeds. -/

namespace TagIndex
open Files Text

/-- The number that decimal digits stand for. -/
def numeral? (digits : List Char) : Option Nat :=
  if digits ≠ [] ∧ digits.all Char.isDigit then some (Nat.ofDigitChars 10 digits 0) else none

/-- The line number in the third field of a record, with the mark after it. -/
def lineNumber? (address : List Char) : Option Nat :=
  match address.reverse with
  | '"' :: ';' :: digits => numeral? digits.reverse
  | _ => none

def TagKind.ofLetter? : List Char → Option TagKind
  | ['p'] => some .package
  | ['f'] => some .function
  | ['t'] => some .type
  | ['v'] => some .value
  | _ => none

/-- The tag that the fields of a record stand for. There must be four. -/
def Tag.ofFields? : List (List Char) → Option Tag
  | [name, file, address, kind] => do
    let line ← lineNumber? address
    let kind ← TagKind.ofLetter? kind
    return ⟨String.ofList name, String.ofList file, line, kind⟩
  | _ => none

def fieldsOf (line : List UInt8) : List (List UInt8) := line.splitOn tab

def Tag.ofLine? (line : List UInt8) : Option Tag := do
  let fields ← (fieldsOf line).mapM fun field => (Utf8.decode field).toOption
  Tag.ofFields? fields

theorem numeral?_toDigits (n : Nat) : numeral? (Nat.toDigits 10 n) = some n := by
  have digits : (Nat.toDigits 10 n).all Char.isDigit = true :=
    List.all_eq_true.2 fun _ => Nat.isDigit_of_mem_toDigits (by decide) (by decide)
  rw [numeral?, if_pos ⟨Nat.toDigits_ne_nil, digits⟩, Nat.ofDigitChars_ten_toDigits]

theorem lineNumber?_address (n : Nat) :
    lineNumber? (Nat.toDigits 10 n ++ [';', '"']) = some n := by
  simp [lineNumber?, numeral?_toDigits]

theorem TagKind.ofLetter?_letter (k : TagKind) : ofLetter? [k.letter] = some k := by
  cases k <;> rfl

namespace Tag

def fields (t : Tag) : List (List Char) :=
  [t.name.toList, t.file.toList, Nat.toDigits 10 t.line ++ [';', '"'], [t.kind.letter]]

theorem text_eq (t : Tag) : t.text.toList = ['\t'].intercalate t.fields := by
  simp [text, fields, List.intercalate, Nat.toString_eq_repr, Nat.toList_repr]

theorem ofFields?_fields (t : Tag) : ofFields? t.fields = some t := by
  simp [ofFields?, fields, lineNumber?_address, TagKind.ofLetter?_letter]

theorem not_mem_address {c : Char} (control : c.toNat < 32) (line : Nat) :
    c ∉ Nat.toDigits 10 line ++ [';', '"'] := by
  intro mem
  obtain digit | mark := List.mem_append.1 mem
  · have least := (Char.isDigit_iff_toNat.1
      (Nat.isDigit_of_mem_toDigits (by decide) (by decide) digit)).1
    have zero : '0'.toNat = 48 := rfl
    omega
  · obtain rfl | rfl : c = ';' ∨ c = '"' := by simpa using mark
    all_goals exact absurd control (by decide)

theorem not_mem_letter {c : Char} (control : c.toNat < 32) (kind : TagKind) :
    c ∉ [kind.letter] := by
  intro mem
  obtain rfl := List.mem_singleton.1 mem
  exact absurd control (by cases kind <;> decide)

theorem mem_fields_iff {t : Tag} {c : Char} (named : IsNameText t.name.toList)
    (control : c.toNat < 32) : (∃ field ∈ t.fields, c ∈ field) ↔ c ∈ t.file.toList := by
  have name : c ∉ t.name.toList := by
    intro mem
    have dot : '.'.toNat = 46 := rfl
    have least := named.chars c mem
    omega
  have line := not_mem_address control t.line
  have kind := not_mem_letter control t.kind
  constructor
  · rintro ⟨field, listed, mem⟩
    simp only [fields, List.mem_cons, List.not_mem_nil, or_false] at listed
    obtain rfl | rfl | rfl | rfl := listed
    · exact absurd mem name
    · exact mem
    · exact absurd mem line
    · exact absurd mem kind
  · intro mem
    exact ⟨t.file.toList, by simp [fields], mem⟩

end Tag

theorem mem_encode_iff {text : List Char} {c : Char} {b : UInt8}
    (single : String.utf8EncodeChar c = [b]) (ascii : b.toNat < 0x80) :
    b ∈ Utf8.encode text ↔ c ∈ text := by
  have code : c.toNat = b.toNat := Utf8.eq_of_mem_utf8EncodeChar (by simp [single]) ascii
  constructor
  · intro mem
    obtain ⟨d, listed, inside⟩ := List.mem_flatMap.1 mem
    have same : d.toNat = c.toNat := (Utf8.eq_of_mem_utf8EncodeChar inside ascii).trans code.symm
    exact Char.toNat_inj.1 same ▸ listed
  · intro mem
    exact List.mem_flatMap.2 ⟨c, mem, by simp [single]⟩

theorem tab_mem_encode_iff {text : List Char} : tab ∈ Utf8.encode text ↔ '\t' ∈ text :=
  mem_encode_iff (by decide) (by decide)

theorem lineFeed_mem_encode_iff {text : List Char} :
    lineFeed ∈ Utf8.encode text ↔ '\n' ∈ text :=
  mem_encode_iff (by decide) (by decide)

theorem encode_intercalate (separator : List Char) (texts : List (List Char)) :
    Utf8.encode (separator.intercalate texts) =
      (Utf8.encode separator).intercalate (texts.map Utf8.encode) := by
  induction texts with
  | nil => rfl
  | cons text texts ih =>
    cases texts with
    | nil => simp
    | cons next texts =>
      rw [List.intercalate_cons_cons, Utf8.encode_append, Utf8.encode_append, ih, List.map_cons,
        List.map_cons, List.map_cons, List.intercalate_cons_cons]

theorem mapM_decode_encode (texts : List (List Char)) :
    (texts.map Utf8.encode).mapM (fun field => (Utf8.decode field).toOption) = some texts := by
  have each : ∀ text ∈ texts, (Utf8.decode (Utf8.encode text)).toOption = pure text := by
    intro text _
    rw [Utf8.decode_eq_ok_iff.2 rfl]
    rfl
  rw [List.mapM_map]
  exact (mapM_eq_pure_map each).trans (congrArg some texts.map_id')

namespace Tag

variable {t : Tag}

theorem encode_text_eq (t : Tag) :
    Utf8.encode t.text.toList = [tab].intercalate (t.fields.map Utf8.encode) := by
  rw [text_eq, encode_intercalate]
  rfl

theorem lineFeed_mem_text_iff (named : IsNameText t.name.toList) :
    lineFeed ∈ Utf8.encode t.text.toList ↔ '\n' ∈ t.file.toList := by
  rw [lineFeed_mem_encode_iff, ← mem_fields_iff named (by decide), text_eq]
  simp [fields, List.intercalate]

theorem tab_mem_fields_iff (named : IsNameText t.name.toList) :
    (∀ field ∈ t.fields.map Utf8.encode, tab ∉ field) ↔ '\t' ∉ t.file.toList := by
  rw [← mem_fields_iff named (by decide), List.forall_mem_map]
  simp only [tab_mem_encode_iff, not_exists, not_and]

theorem length_fieldsOf_text (named : IsNameText t.name.toList) :
    (fieldsOf (Utf8.encode t.text.toList)).length = 4 ↔ '\t' ∉ t.file.toList := by
  rw [← tab_mem_fields_iff named, ← length_splitOn_intercalate (by simp [fields]), fieldsOf,
    encode_text_eq]
  rfl

theorem ofLine?_text (named : IsNameText t.name.toList) (noTab : '\t' ∉ t.file.toList) :
    ofLine? (Utf8.encode t.text.toList) = some t := by
  have split : fieldsOf (Utf8.encode t.text.toList) = t.fields.map Utf8.encode := by
    rw [fieldsOf, encode_text_eq,
      List.splitOn_intercalate tab ((tab_mem_fields_iff named).2 noTab) (by simp [fields])]
  rw [ofLine?, split, mapM_decode_encode]
  exact ofFields?_fields t

end Tag

structure IsPlain (path : String) : Prop where
  noTab : '\t' ∉ path.toList
  noLineFeed : '\n' ∉ path.toList

/-- Bytes that tags can be read back from: after the header there is one line for each tag, and
nothing after the last of them. Each line has four fields, and the lines stand for the tags. -/
structure ReadsBack (bytes : List UInt8) (tags : List Tag) (lines : List (List UInt8)) : Prop where
  split : linesOf bytes = Utf8.encode tagFileHeader.toList :: lines ++ [[]]
  each : lines.length = tags.length
  fields : ∀ line ∈ lines, (fieldsOf line).length = 4
  recovered : ∃ read, lines.mapM Tag.ofLine? = some read ∧ read.Perm tags

/-- The lines of a tag file, with the empty one after its last line feed. -/
def tagFileLines (records : List String) : List (List UInt8) :=
  (Utf8.encode tagFileHeader.toList :: records.map fun r => Utf8.encode r.toList) ++ [[]]

theorem length_tagFileLines (records : List String) :
    (tagFileLines records).length = records.length + 2 := by
  simp [tagFileLines]

theorem tagFileLines_ne_nil (records : List String) : tagFileLines records ≠ [] := by
  simp [tagFileLines]

theorem encode_tagFileText (records : List String) :
    Utf8.encode (tagFileText records) = [lineFeed].intercalate (tagFileLines records) := by
  rw [tagFileLines, ← flatMap_ended, List.flatMap_cons, List.flatMap_map]
  change _ = lineBytes tagFileHeader ++ records.flatMap lineBytes
  rw [flatMap_lineBytes, lineBytes_eq, ← Utf8.encode_append]
  rfl

theorem linesOf_tagFile {records : List String}
    (whole : ∀ line ∈ tagFileLines records, lineFeed ∉ line) :
    linesOf (Utf8.encode (tagFileText records)) = tagFileLines records := by
  rw [linesOf, encode_tagFileText,
    List.splitOn_intercalate lineFeed whole (tagFileLines_ne_nil records)]

theorem length_linesOf_tagFile {records : List String} :
    (linesOf (Utf8.encode (tagFileText records))).length = records.length + 2 ↔
      ∀ line ∈ tagFileLines records, lineFeed ∉ line := by
  rw [linesOf, encode_tagFileText, ← length_tagFileLines,
    length_splitOn_intercalate (tagFileLines_ne_nil records)]

section

variable {records : List String} {tags : List Tag}

theorem lineFeed_mem_tagFileLines_iff (perm : records.Perm (tags.map (·.text)))
    (named : ∀ t ∈ tags, IsNameText t.name.toList) :
    (∀ line ∈ tagFileLines records, lineFeed ∉ line) ↔ ∀ t ∈ tags, '\n' ∉ t.file.toList := by
  have header : lineFeed ∉ Utf8.encode tagFileHeader.toList := by
    rw [lineFeed_mem_encode_iff]
    decide
  have same : (∀ r ∈ records, lineFeed ∉ Utf8.encode r.toList) ↔
      ∀ t ∈ tags, lineFeed ∉ Utf8.encode t.text.toList := by
    simp only [perm.mem_iff, List.forall_mem_map]
  simp only [tagFileLines, List.forall_mem_append, List.forall_mem_cons, List.forall_mem_map, same,
    header, List.not_mem_nil, not_false_eq_true, true_and, and_true, IsEmpty.forall_iff,
    implies_true]
  exact forall₂_congr fun t mem => not_congr (Tag.lineFeed_mem_text_iff (named t mem))

theorem exists_read (perm : records.Perm (tags.map (·.text)))
    (readable : ∀ t ∈ tags, Tag.ofLine? (Utf8.encode t.text.toList) = some t) :
    ∃ read, (records.map fun r => Utf8.encode r.toList).mapM Tag.ofLine? = some read ∧
      read.Perm tags := by
  let tagOf (record : String) : Tag := (Tag.ofLine? (Utf8.encode record.toList)).getD default
  have each : ∀ t ∈ tags, tagOf t.text = t := fun t mem => by simp [tagOf, readable t mem]
  have all : ∀ r ∈ records, Tag.ofLine? (Utf8.encode r.toList) = some (tagOf r) := by
    intro r mem
    obtain ⟨t, listed, rfl⟩ := List.mem_map.1 (perm.mem_iff.1 mem)
    rw [each t listed, readable t listed]
  refine ⟨records.map tagOf, ?_, ?_⟩
  · rw [List.mapM_map]
    exact mapM_eq_pure_map all
  · have back : (tags.map (·.text)).map tagOf = tags := by
      rw [List.map_map]
      exact (List.map_congr_left each).trans tags.map_id'
    exact back ▸ perm.map tagOf

theorem readsBack_iff (perm : records.Perm (tags.map (·.text)))
    (named : ∀ t ∈ tags, IsNameText t.name.toList) :
    (∃ lines, ReadsBack (Utf8.encode (tagFileText records)) tags lines) ↔
      ∀ t ∈ tags, IsPlain t.file := by
  have size : records.length = tags.length := by
    rw [perm.length_eq, List.length_map]
  have listed : ∀ t ∈ tags, Utf8.encode t.text.toList ∈ records.map fun r => Utf8.encode r.toList :=
    fun t mem => List.mem_map_of_mem (perm.mem_iff.2 (List.mem_map_of_mem mem))
  constructor
  · rintro ⟨lines, back⟩
    -- A line feed in a path would make more lines than there are tags.
    have count : (linesOf (Utf8.encode (tagFileText records))).length = records.length + 2 := by
      simp [back.split, back.each, size]
    have whole := length_linesOf_tagFile.1 count
    have same : lines = records.map fun r => Utf8.encode r.toList := by
      have split := back.split.symm.trans (linesOf_tagFile whole)
      simpa [tagFileLines] using split
    subst same
    intro t mem
    constructor
    · exact (Tag.length_fieldsOf_text (named t mem)).1 (back.fields _ (listed t mem))
    · exact (lineFeed_mem_tagFileLines_iff perm named).1 whole t mem
  · intro plain
    have whole := (lineFeed_mem_tagFileLines_iff perm named).2 fun t mem => (plain t mem).noLineFeed
    refine ⟨records.map fun r => Utf8.encode r.toList, ?_, ?_, ?_, ?_⟩
    · exact linesOf_tagFile whole
    · rw [List.length_map, size]
    · intro line mem
      obtain ⟨r, inFile, rfl⟩ := List.mem_map.1 mem
      obtain ⟨t, tagged, rfl⟩ := List.mem_map.1 (perm.mem_iff.1 inFile)
      exact (Tag.length_fieldsOf_text (named t tagged)).2 (plain t tagged).noTab
    · exact exists_read perm fun t mem => Tag.ofLine?_text (named t mem) (plain t mem).noTab

end

theorem Decl.file_of_mem_tags {path package : String} (d : Decl) :
    ∀ t ∈ d.tags path package, t.file = path := by
  intro t mem
  cases d with
  | function hasReceiver name =>
    cases hasReceiver <;> simp_all [tags]
  | imports => simp [tags] at mem
  | types names | values names =>
    obtain ⟨n, -, rfl⟩ := List.mem_map.1 mem
    rfl

theorem SourceFile.file_of_mem_tags (f : SourceFile) : ∀ t ∈ f.tags, t.file = f.path := by
  intro t mem
  obtain rfl | mem := List.mem_cons.1 mem
  · rfl
  · obtain ⟨d, listed, mem⟩ := List.mem_flatMap.1 mem
    exact d.file_of_mem_tags t mem

section

variable {parse : String → Tree} {fs : FileSystem} {o : Options} {path : String}
  {file : SourceFile}

theorem path_of_ofTree {source : String} {tree : Tree}
    (h : SourceFile.ofTree path source tree = .ok file) : file.path = path := by
  unfold SourceFile.ofTree at h
  dsimp only at h
  split at h
  · cases h
  · split at h
    · cases h
    · obtain ⟨top, -, done⟩ := bind_eq_ok_iff.1 h
      cases done
      rfl

theorem path_of_scanned {files : View} (h : scanned parse files path = .ok file) :
    file.path = path := by
  obtain ⟨bytes, read⟩ := read_of_scanned h
  obtain ⟨source, -, done⟩ := bind_eq_ok_iff.1 read
  exact path_of_ofTree done

theorem isPlain_of_tags_iff {files : View} {inputs : List String} {sources : List SourceFile}
    (scans : List.Forall₂ (fun path source => scanned parse files path = .ok source) inputs
      sources) :
    (∀ t ∈ sources.flatMap (·.tags), IsPlain t.file) ↔ ∀ path ∈ inputs, IsPlain path := by
  constructor
  · intro plain path mem
    obtain ⟨source, listed, scan⟩ := exists_mem_of_forall₂ scans.flip mem
    have first := plain _ (List.mem_flatMap.2 ⟨source, listed, List.mem_cons_self⟩)
    rwa [path_of_scanned scan] at first
  · intro plain t mem
    obtain ⟨source, listed, tagged⟩ := List.mem_flatMap.1 mem
    obtain ⟨path, given, scan⟩ := exists_mem_of_forall₂ scans listed
    rw [source.file_of_mem_tags t tagged, path_of_scanned scan]
    exact plain path given

theorem exists_delivered {sink : Sink} (h : (run parse fs o sink).result = .ok ()) :
    ∃ inputs sources records, (o.inputs fs.view).result = .ok inputs ∧
      List.Forall₂ (fun path source => scanned parse fs.view path = .ok source) inputs sources ∧
      records.Perm (recordsOf sources) ∧
      o.Delivered fs (run parse fs o sink) (Utf8.encode (tagFileText records)) := by
  obtain ⟨_, ⟨inputs, sources, records, found, scans, perm, -, rfl⟩, delivered⟩ :=
    delivered_of_ok h
  exact ⟨inputs, sources, records, found, scans, perm, delivered⟩

theorem isNameText_of_scanned (tree : ∀ source, Go.TreeOf source (parse source)) {files : View}
    {inputs : List String} {sources : List SourceFile}
    (scans : List.Forall₂ (fun path source => scanned parse files path = .ok source) inputs
      sources) :
    ∀ t ∈ sources.flatMap (·.tags), IsNameText t.name.toList := by
  intro t mem
  obtain ⟨source, listed, tagged⟩ := List.mem_flatMap.1 mem
  obtain ⟨path, -, scan⟩ := exists_mem_of_forall₂ scans listed
  obtain ⟨bytes, read⟩ := read_of_scanned scan
  exact isNameText_of_mem_tags tree read t tagged

/-- The tags of all inputs can be read back from what a successful run wrote, line by line and field
by field, if no path of an input holds a tab or a line feed, and only then. -/
theorem tag_file_reads_back_iff (parse : String → Tree) (fs : FileSystem) (o : Options)
    (sink : Sink) (tree : ∀ source, Go.TreeOf source (parse source))
    (h : (run parse fs o sink).result = .ok ()) :
    ∃ inputs sources bytes, (o.inputs fs.view).result = .ok inputs ∧
      List.Forall₂ (fun path source => scanned parse fs.view path = .ok source) inputs sources ∧
      o.Delivered fs (run parse fs o sink) bytes ∧
      ((∃ lines, ReadsBack bytes (sources.flatMap (·.tags)) lines) ↔
        ∀ path ∈ inputs, IsPlain path) := by
  obtain ⟨inputs, sources, records, found, scans, perm, delivered⟩ := exists_delivered h
  rw [recordsOf, ← List.map_flatMap] at perm
  exact ⟨inputs, sources, _, found, scans, delivered,
    (readsBack_iff perm (isNameText_of_scanned tree scans)).trans (isPlain_of_tags_iff scans)⟩

end

theorem tag_file_reads_back_overwriting :
    ∃ inputs sources bytes, (Sample.overwriting.inputs Sample.files.view).result = .ok inputs ∧
      List.Forall₂ (fun path source => scanned Sample.parse Sample.files.view path = .ok source)
        inputs sources ∧
      Sample.overwriting.Delivered Sample.files
        (run Sample.parse Sample.files Sample.overwriting) bytes ∧
      ((∃ lines, ReadsBack bytes (sources.flatMap (·.tags)) lines) ↔
        ∀ path ∈ inputs, IsPlain path) :=
  tag_file_reads_back_iff _ _ _ _ Sample.treeOf_parse Sample.result_run_parse

namespace Sample

def tabbed : FileSystem where
  root := .directory [("a\tb.go", .file (Utf8.encode text.toList))]
  workingDirectory := []
  sound := .directory (by decide) (by decide) (by simpa using .file _)
  standing := rfl

theorem node_tabbed : tabbed.node "a\tb.go" = .ok (.file (Utf8.encode text.toList)) := by
  have names : steps "a\tb.go" = ["a\tb.go"] := by decide
  have followed : FileSystem.Followed "a\tb.go" := ⟨by decide, by decide, by decide⟩
  have lookedUp : LookedUp false "a\tb.go" [] := ⟨by decide, by decide, by simp, by decide⟩
  have leads : tabbed.resolve false "a\tb.go" = .ok (.present ["a\tb.go"]) := by
    refine FileSystem.resolve_eq_ok_iff.2 ⟨followed, ?_⟩
    rw [names]
    exact .file lookedUp rfl
  rw [FileSystem.node, leads]
  rfl

theorem scanned_tabbed :
    scanned parse tabbed.view "a\tb.go" = .ok { file with path := "a\tb.go" } := by
  have info : tabbed.view.info "a\tb.go" = .ok ⟨false, 21⟩ := by
    change Node.info <$> tabbed.node "a\tb.go" = _
    rw [node_tabbed]
    decide
  have read : tabbed.view.read "a\tb.go" = .ok (Utf8.encode text.toList) := by
    change tabbed.read "a\tb.go" = _
    rw [FileSystem.read, node_tabbed]
    rfl
  rw [scanned_eq info read, read_of_text rfl, parse, if_pos rfl]
  decide +kernel

theorem gathered_tabbed : (gatherTags parse tabbed.view { files := ["a\tb.go"] }).result =
    .ok ⟨recordsOf [{ file with path := "a\tb.go" }]⟩ :=
  result_gatherTags_eq_ok_iff.2 ⟨["a\tb.go"], _, rfl, .cons scanned_tabbed .nil, rfl⟩

end Sample

theorem tag_file_broken_by_tab :
    (∀ source, Go.TreeOf source (Sample.parse source)) ∧
    (run Sample.parse Sample.tabbed { files := ["a\tb.go"] }).result = .ok () ∧
    ¬ ∃ inputs sources bytes lines,
      (Options.inputs { files := ["a\tb.go"] } Sample.tabbed.view).result = .ok inputs ∧
      List.Forall₂ (fun path source => scanned Sample.parse Sample.tabbed.view path = .ok source)
        inputs sources ∧
      Options.Delivered { files := ["a\tb.go"] } Sample.tabbed
        (run Sample.parse Sample.tabbed { files := ["a\tb.go"] }) bytes ∧
      ReadsBack bytes (sources.flatMap (·.tags)) lines := by
  refine ⟨Sample.treeOf_parse, ?_, ?_⟩
  · exact result_run_eq_ok_iff.2 ⟨_, Sample.gathered_tabbed, nofun, TagList.fits_unlimited _⟩
  · rintro ⟨inputs, sources, bytes, lines, found, scans, ⟨rfl, -⟩, back⟩
    obtain rfl := Except.ok.inj found
    have named := isNameText_of_scanned Sample.treeOf_parse scans
    obtain _ | ⟨scan, _ | _⟩ := scans
    obtain rfl := Except.ok.inj (Sample.scanned_tabbed.symm.trans scan)
    rw [run_of_ok Sample.gathered_tabbed, delivered] at back
    change ReadsBack (TagList.fileBytes _) _ _ at back
    rw [TagList.fileBytes_eq] at back
    have plain := (readsBack_iff ?_ named).1 ⟨lines, back⟩
    · exact (plain _ List.mem_cons_self).noTab (by decide)
    · rw [List.map_flatMap]
      exact TagList.sorted_perm _

end TagIndex
