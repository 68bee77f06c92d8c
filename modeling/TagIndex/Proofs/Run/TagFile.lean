import TagIndex.Proofs.Source.Acceptance
import TagIndex.Proofs.Text.Order

/-! The bytes that a run writes: the header line, then the records of all inputs in ascending order,
each on a line of its own. -/

namespace TagIndex
open Files Text

namespace TagList

theorem sorted_perm (l : TagList) : l.sorted.Perm l.lines := List.mergeSort_perm _ _

theorem pairwise_sorted (l : TagList) :
    l.sorted.Pairwise fun a b => Utf8.encode a.toList ≤ Utf8.encode b.toList :=
  pairwise_mergeSort_bytesLe id l.lines

end TagList

def tagFileText (records : List String) : List Char :=
  "!_TAG_FILE_SORTED\t1\t\n".toList ++ records.flatMap fun record => record.toList ++ ['\n']

theorem lineBytes_eq (line : String) : lineBytes line = Utf8.encode (line.toList ++ ['\n']) := by
  rw [lineBytes, Utf8.encode_append]
  rfl

theorem flatMap_lineBytes (records : List String) :
    records.flatMap lineBytes = Utf8.encode (records.flatMap fun r => r.toList ++ ['\n']) := by
  simp only [Utf8.encode, List.flatMap_assoc]
  exact List.flatMap_congr fun record _ => lineBytes_eq record

theorem TagList.fileBytes_eq (l : TagList) : l.fileBytes = Utf8.encode (tagFileText l.sorted) := by
  have header : lineBytes tagFileHeader = Utf8.encode "!_TAG_FILE_SORTED\t1\t\n".toList := by
    rw [lineBytes_eq]
    rfl
  have lines : l.fileBytes = lineBytes tagFileHeader ++ l.sorted.flatMap lineBytes := by
    rw [fileBytes_eq_flatten, pieces, fileLines, List.map_cons, List.flatten_cons,
      ← List.flatMap_def]
  unfold tagFileText
  rewrite [lines, header, flatMap_lineBytes]
  exact (Utf8.encode_append _ _).symm

variable {parse : String → Tree} {fs : FileSystem} {o : Options} {sink : Sink}

/-- Where the bytes of a tag file went. -/
def Options.Delivered (o : Options) (fs : FileSystem) (outcome : Outcome) (bytes : List UInt8) :
    Prop :=
  match o.output with
  | none => outcome.output = bytes ∧ outcome.files = fs
  | some path => outcome.output = [] ∧ outcome.files.read path = .ok bytes

theorem delivered_written {log : List Event} {tags : TagList} (h : o.Deliverable fs) :
    o.Delivered fs (delivered fs o sink log tags) (tags.writeTo sink).bytes := by
  unfold Options.Delivered delivered
  cases output : o.output with
  | none => exact ⟨rfl, rfl⟩
  | some path =>
    obtain ⟨location, target⟩ := h path output
    obtain ⟨changed, written, -⟩ := FileSystem.exists_write target (tags.writeTo sink).bytes
    simp [written, FileSystem.read_write written]

theorem delivered_delivered {log : List Event} {tags : TagList} (h : o.Deliverable fs)
    (fits : tags.Fits sink) :
    o.Delivered fs (delivered fs o sink log tags) tags.fileBytes := by
  rw [← fits.bytes_writeTo]
  exact delivered_written h

/-- The whole tag file of a run: the header line, and then the records of all inputs in ascending
order. -/
def Options.IsTagFile (o : Options) (parse : String → Tree) (fs : FileSystem) (bytes : List UInt8) :
    Prop :=
  ∃ inputs sources records, (o.inputs fs.view).result = .ok inputs ∧
    List.Forall₂ (fun path source => scanned parse fs.view path = .ok source) inputs sources ∧
    List.Perm records (recordsOf sources) ∧
    records.Pairwise (fun a b => Utf8.encode a.toList ≤ Utf8.encode b.toList) ∧
    bytes = Utf8.encode (tagFileText records)

theorem isTagFile_of_gathered {tags : TagList}
    (gathered : (gatherTags parse fs.view o).result = .ok tags) :
    o.IsTagFile parse fs tags.fileBytes := by
  obtain ⟨inputs, sources, found, scans, rfl⟩ := result_gatherTags_eq_ok_iff.1 gathered
  exact ⟨inputs, sources, _, found, scans, TagList.sorted_perm _, TagList.pairwise_sorted _,
    TagList.fileBytes_eq _⟩

theorem delivered_of_full {cause : String} (h : (run parse fs o sink).result = .error (.io cause)) :
    cause = sink.failure ∧ ∃ bytes part, o.IsTagFile parse fs bytes ∧ part <+: bytes ∧
      part ≠ bytes ∧ o.Delivered fs (run parse fs o sink) part := by
  cases gathered : (gatherTags parse fs.view o).result with
  | error e =>
    rw [run_of_error gathered] at h
    rw [Except.error.inj h] at gathered
    exact absurd gathered (result_gatherTags_ne_io cause)
  | ok tags =>
    rw [run_of_ok gathered] at h ⊢
    obtain ⟨_, _, -, -, other⟩ | ⟨deliverable, full, same⟩ := error_of_delivered h
    · cases other
    · exact ⟨Error.io.inj same, _, _, isTagFile_of_gathered gathered, tags.writeTo_prefix sink,
        TagList.writeTo_ne_of_failure full, delivered_written deliverable⟩

theorem delivered_of_ok (h : (run parse fs o sink).result = .ok ()) :
    ∃ bytes, o.IsTagFile parse fs bytes ∧ o.Delivered fs (run parse fs o sink) bytes := by
  obtain ⟨tags, gathered, deliverable, fits⟩ := result_run_eq_ok_iff.1 h
  refine ⟨_, isTagFile_of_gathered gathered, ?_⟩
  rw [run_of_ok gathered]
  exact delivered_delivered deliverable fits

/-- A run that succeeds writes the header line and the records of all inputs, as they were before
the run, sorted by their bytes. It writes the same to standard output and to a file, also if the
file is one of the inputs. -/
theorem run_writes_sorted_records (parse : String → Tree) (fs : FileSystem) (o : Options)
    (sink : Sink) (h : (run parse fs o sink).result = .ok ()) :
    ∃ inputs sources records, (o.inputs fs.view).result = .ok inputs ∧
      List.Forall₂ (fun path source => scanned parse fs.view path = .ok source) inputs sources ∧
      records.Perm (sources.flatMap fun source => source.tags.map (·.text)) ∧
      records.Pairwise (fun a b => Utf8.encode a.toList ≤ Utf8.encode b.toList) ∧
      o.Delivered fs (run parse fs o sink) (Utf8.encode (tagFileText records)) := by
  obtain ⟨tags, gathered, deliverable, fits⟩ := result_run_eq_ok_iff.1 h
  obtain ⟨inputs, sources, found, scans, lines⟩ := result_gatherTags_eq_ok_iff.1 gathered
  refine ⟨inputs, sources, tags.sorted, found, scans, ?_, tags.pairwise_sorted, ?_⟩
  · subst lines
    exact TagList.sorted_perm _
  · rw [run_of_ok gathered, ← tags.fileBytes_eq]
    exact delivered_delivered deliverable fits

/-- The file is scanned twice and then overwritten. -/
def Sample.overwriting : Options where
  files := ["a.go", "a.go"]
  output := some "a.go"

theorem Sample.result_run_overwriting :
    (run (fun _ => Sample.tree) Sample.files Sample.overwriting).result = .ok () := by
  refine result_run_eq_ok_iff.2 ⟨_, result_gatherTags_eq_ok_iff.2 ⟨["a.go", "a.go"], _, rfl,
    .cons Sample.scanned_tree (.cons Sample.scanned_tree .nil), rfl⟩, ?_, TagList.fits_unlimited _⟩
  rintro path ⟨⟩
  refine ⟨["a.go"], ?_⟩
  rw [FileSystem.target, Sample.resolve_eq]
  rfl

theorem run_writes_sorted_records_overwriting :
    ∃ inputs sources records, (Sample.overwriting.inputs Sample.files.view).result = .ok inputs ∧
      List.Forall₂ (fun path source =>
        scanned (fun _ => Sample.tree) Sample.files.view path = .ok source) inputs sources ∧
      records.Perm (sources.flatMap fun source => source.tags.map (·.text)) ∧
      records.Pairwise (fun a b => Utf8.encode a.toList ≤ Utf8.encode b.toList) ∧
      Sample.overwriting.Delivered Sample.files
        (run (fun _ => Sample.tree) Sample.files Sample.overwriting)
        (Utf8.encode (tagFileText records)) :=
  run_writes_sorted_records _ _ _ _ Sample.result_run_overwriting

end TagIndex
