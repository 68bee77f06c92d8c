import TagIndex.Proofs.Files.Editing
import TagIndex.Proofs.Run.Gathering

/-! A run writes everything or nothing: it writes only after all inputs were read, and then it
changes one file at most. -/

namespace TagIndex
open Files

structure Outcome.Untouched (outcome : Outcome) (fs : FileSystem) (e : Error) : Prop where
  result : outcome.result = .error e
  output : outcome.output = []
  files : outcome.files = fs

structure Files.View.AgreeOn (files other : View) (path : String) : Prop where
  info : other.info path = files.info path
  read : other.read path = files.read path

variable {parse : String → Tree}

theorem scanned_congr {files other : View} {path : String} (h : files.AgreeOn other path) :
    scanned parse other path = scanned parse files path := by
  simp only [scanned, scanFile, Attempt.result_bind, h.info, h.read]

theorem FirstFailure.congr {files other : View} {before : List String} {path : String} {e : Error}
    (first : FirstFailure (scanned parse files) before path e)
    (agree : ∀ p ∈ before ++ [path], files.AgreeOn other p) :
    FirstFailure (scanned parse other) before path e where
  succeeds p hp := by
    rw [scanned_congr (agree p (by simp [hp]))]
    exact first.succeeds p hp
  fails := by
    rw [scanned_congr (agree path (by simp))]
    exact first.fails

section

variable {fs : FileSystem} {o : Options} {sink : Sink}

theorem run_untouched {e : Error} (h : (gatherTags parse fs.view o).result = .error e) :
    (run parse fs o sink).Untouched fs e := by
  rw [run_of_error h]
  exact ⟨rfl, rfl, rfl⟩

theorem run_untouched_of_refused {tags : TagList} {path : String} {cause : SystemError}
    (gathered : (gatherTags parse fs.view o).result = .ok tags) (output : o.output = some path)
    (refused : fs.target path = .error cause) :
    (run parse fs o sink).Untouched fs (.writeFailed path cause) := by
  rw [run_of_ok gathered, delivered, output]
  simp only [FileSystem.write_eq_error_iff.2 refused]
  exact ⟨rfl, rfl, rfl⟩

theorem untouched_of_error {e : Error} (h : (run parse fs o sink).result = .error e)
    (other : e ≠ .io sink.failure) : (run parse fs o sink).Untouched fs e := by
  cases gathered : (gatherTags parse fs.view o).result with
  | error e' =>
    have untouched : (run parse fs o sink).Untouched fs e' := run_untouched gathered
    rwa [Except.error.inj (untouched.result.symm.trans h)] at untouched
  | ok tags =>
    rw [run_of_ok gathered] at h
    obtain ⟨path, cause, output, refused, rfl⟩ | ⟨-, -, full⟩ := error_of_delivered h
    · exact run_untouched_of_refused gathered output refused
    · exact absurd full other

theorem run_replaced (h : (run parse fs o sink).result = .ok ()) :
    (o.output = none → (run parse fs o sink).files = fs) ∧
    ∀ path, o.output = some path → ∃ location content, fs.target path = .ok location ∧
      fs.Replaced (run parse fs o sink).files location content := by
  constructor
  · intro output
    obtain ⟨tags, gathered, -⟩ := result_run_eq_ok_iff.1 h
    simp [run_of_ok gathered, delivered, output]
  · intro path output
    obtain ⟨tags, location, -, -, target, replaced⟩ := replaced_of_run h output
    exact ⟨location, _, target, replaced⟩

/-- A new tag file can be removed, and then all is as it was before the run. -/
theorem removeFile_run {path : String} {location : List String}
    (h : (run parse fs o sink).result = .ok ()) (output : o.output = some path)
    (target : fs.target path = .ok location) (stands : fs.entryLocation path = .ok location)
    (free : fs.root.surfaceAt? location = none) :
    (run parse fs o sink).files.removeFile path = .ok fs := by
  obtain ⟨tags, gathered, -, fits⟩ := result_run_eq_ok_iff.1 h
  obtain ⟨changed, written, -⟩ := FileSystem.exists_write target tags.fileBytes
  have files : (run parse fs o sink).files = changed := by
    rw [run_of_ok gathered, delivered, output]
    simp only [fits.bytes_writeTo, written]
  rw [files]
  exact FileSystem.removeFile_write target stands free written

end

/-- A run fails without a trace at the first argument that leads nowhere, else at the first input
that does not scan, whatever the inputs after it are, else when the tag file cannot be created.
Otherwise it succeeds, or there is no room for all of the tag file. Where it succeeds the tag file
is the only one that changed. -/
theorem run_all_or_nothing (parse : String → Tree) (fs : FileSystem) (o : Options) (sink : Sink) :
    (∀ e, (o.inputs fs.view).result = .error e → (run parse fs o sink).Untouched fs e ∧
      o.recurse = true ∧ ∃ before path after cause, o.files = before ++ path :: after ∧
        FirstFailure fs.info before path cause ∧ e = .readFailed path cause) ∧
    (∀ inputs, (o.inputs fs.view).result = .ok inputs →
      (∃ p ∈ inputs, ∃ e, scanned parse fs.view p = .error e) →
      ∃ before path after e, inputs = before ++ path :: after ∧
        FirstFailure (scanned parse fs.view) before path e ∧ (run parse fs o sink).Untouched fs e ∧
        ∀ (fs' : FileSystem) (o' : Options) (sink' : Sink) (after' : List String),
          (o'.inputs fs'.view).result = .ok (before ++ path :: after') →
          (∀ p ∈ before ++ [path], fs.view.AgreeOn fs'.view p) →
          (run parse fs' o' sink').Untouched fs' e) ∧
    (∀ inputs, (o.inputs fs.view).result = .ok inputs →
      (∀ p ∈ inputs, ∃ source, scanned parse fs.view p = .ok source) →
      (∀ path cause, o.output = some path → fs.target path = .error cause →
        (run parse fs o sink).Untouched fs (.writeFailed path cause)) ∧
      (o.Deliverable fs → (run parse fs o sink).result = .ok () ∨
        sink.room ≠ none ∧ (run parse fs o sink).result = .error (.io sink.failure))) ∧
    ((run parse fs o sink).result = .ok () →
      (o.output = none → (run parse fs o sink).files = fs) ∧
      ∀ path, o.output = some path → ∃ location content, fs.target path = .ok location ∧
        fs.Replaced (run parse fs o sink).files location content) := by
  refine ⟨?_, ?_, ?_, run_replaced⟩
  · intro e failed
    refine ⟨run_untouched ?_, result_inputs_eq_error_iff.1 failed⟩
    rw [result_gatherTags, failed]
    rfl
  · intro inputs found ⟨p, hp, e, fails⟩
    obtain ⟨before, path, after, e, rfl, first⟩ := exists_firstFailure hp fails
    refine ⟨before, path, after, e, rfl, first,
      run_untouched (result_gatherTags_of_firstFailure found first), ?_⟩
    intro fs' o' sink' after' found' agree
    exact run_untouched (result_gatherTags_of_firstFailure found' (first.congr agree))
  · intro inputs found scans
    obtain ⟨sources, scans⟩ := exists_mapM_eq_ok_iff.2 scans
    have gathered : (gatherTags parse fs.view o).result = .ok ⟨recordsOf sources⟩ :=
      result_gatherTags_eq_ok_iff.2 ⟨inputs, sources, found, mapM_eq_ok_iff.1 scans, rfl⟩
    refine ⟨fun path cause => run_untouched_of_refused gathered, fun deliverable => ?_⟩
    rw [run_of_ok gathered, result_delivered deliverable]
    cases failure : (TagList.writeTo ⟨recordsOf sources⟩ sink).failure with
    | none => exact .inl rfl
    | some cause =>
      obtain ⟨rfl, room, limited, -⟩ := Sink.failure_write failure
      exact .inr ⟨by simp [limited], rfl⟩

end TagIndex
