import TagIndex.Proofs.Files.Writing
import TagIndex.Proofs.Tag.Sending
import TagIndex.Run.Outcome

/-! What a run gathers, apart from its log: the inputs of all arguments one after the other, and
then the records of all inputs one after the other, each up to the first failure. -/

namespace TagIndex
open Files

variable {parse : String → Tree} {files : View} {o : Options}

def goChains (visits : List Visit) : List (List String) :=
  (visits.filterMap Visit.chain?).filter fun chain => chain.getLast?.any isGoFileName

def goFiles (files : View) (path : String) : List (List String) := goChains (files.walk path)

def walkedFiles (files : View) (path : String) : List String :=
  (goFiles files path).map (joinAll path)

theorem goChains_file_cons (chain : List String) (visits : List Visit) :
    goChains (.file chain :: visits) =
      if chain.getLast?.any isGoFileName then chain :: goChains visits else goChains visits := by
  simp [goChains, Visit.chain?, List.filter_cons]

theorem result_collect (o : Options) (root : String) (visits : List Visit) :
    (o.collect root visits).result = .ok (((goChains visits).map (joinAll root)).filter fun file =>
      o.shouldScan (relativePath root file)) := by
  induction visits with
  | nil => rfl
  | cons visit visits ih =>
    cases visit with
    | unreadable error => exact ih
    | file chain =>
      rw [goChains_file_cons, Options.collect]
      split_ifs with extension kept
      · rw [Attempt.result_bind, ih, List.map_cons, List.filter_cons, if_pos kept]
        rfl
      · rw [List.map_cons, List.filter_cons, if_neg kept]
        exact ih
      · exact ih

theorem collect_congr {o' : Options}
    (same : ∀ relative, o'.shouldScan relative = o.shouldScan relative) (root : String)
    (visits : List Visit) : o'.collect root visits = o.collect root visits := by
  induction visits with
  | nil => rfl
  | cons visit visits ih => cases visit <;> simp only [Options.collect, ih, same]

theorem result_expandOne_eq_error_iff {path : String} {e : Error} :
    (o.expandOne files path).result = .error e ↔
      ∃ cause, files.info path = .error cause ∧ e = .readFailed path cause := by
  simp only [Options.expandOne, Attempt.result_bind, Attempt.result_ofExcept]
  cases found : files.info path with
  | error cause => simp [Except.mapError, bind, Except.bind, eq_comm]
  | ok info =>
    cases h : info.isDirectory <;> simp [Except.mapError, bind, Except.bind, h, result_collect]

theorem result_expandOne_eq_ok_iff {path : String} :
    (∃ paths, (o.expandOne files path).result = .ok paths) ↔
      ∃ info, files.info path = .ok info := by
  cases h : (o.expandOne files path).result with
  | error e =>
    obtain ⟨cause, found, rfl⟩ := result_expandOne_eq_error_iff.1 h
    simp [found]
  | ok paths =>
    cases found : files.info path with
    | error cause =>
      rw [result_expandOne_eq_error_iff.2 ⟨cause, found, rfl⟩] at h
      cases h
    | ok info => simp

theorem result_expandAll (paths : List String) :
    (o.expandAll files paths).result =
      List.flatten <$> paths.mapM fun path => (o.expandOne files path).result := by
  induction paths with
  | nil => rfl
  | cons path paths ih =>
    simp only [Options.expandAll, Attempt.result_bind, ih, List.mapM_cons, Attempt.result_pure]
    cases (o.expandOne files path).result with
    | error e => rfl
    | ok inputs => cases paths.mapM fun path => (o.expandOne files path).result <;> rfl

theorem exists_parts {inputs : List String} (walks : o.recurse = true)
    (found : (o.inputs files).result = .ok inputs) :
    ∃ parts, List.Forall₂ (fun path part => (o.expandOne files path).result = .ok part)
      o.files parts ∧ inputs = parts.flatten := by
  rw [Options.inputs, if_pos walks, result_expandAll, map_eq_ok_iff] at found
  obtain ⟨parts, each, rfl⟩ := found
  exact ⟨parts, mapM_eq_ok_iff.1 each, rfl⟩

theorem result_inputs_eq_error_iff {e : Error} :
    (o.inputs files).result = .error e ↔ o.recurse = true ∧
      ∃ before path after cause, o.files = before ++ path :: after ∧
        FirstFailure files.info before path cause ∧ e = .readFailed path cause := by
  unfold Options.inputs
  split
  · rename_i recurse
    simp only [result_expandAll, map_eq_error_iff, mapM_eq_error_iff, recurse, true_and]
    constructor
    · rintro ⟨before, path, after, split, first⟩
      obtain ⟨cause, found, rfl⟩ := result_expandOne_eq_error_iff.1 first.fails
      exact ⟨before, path, after, cause, split,
        ⟨fun p hp => result_expandOne_eq_ok_iff.1 (first.succeeds p hp), found⟩, rfl⟩
    · rintro ⟨before, path, after, cause, split, first, rfl⟩
      exact ⟨before, path, after, split,
        ⟨fun p hp => result_expandOne_eq_ok_iff.2 (first.succeeds p hp),
          result_expandOne_eq_error_iff.2 ⟨cause, first.fails, rfl⟩⟩⟩
  · simp_all

abbrev scanned (parse : String → Tree) (files : View) (path : String) : Except Error SourceFile :=
  (scanFile parse files path).result

def recordsOf (sources : List SourceFile) : List String :=
  sources.flatMap fun source => source.tags.map (·.text)

theorem result_scanAll (gathered : TagList) (inputs : List String) :
    (scanAll parse files gathered inputs).result =
      (fun sources => ⟨gathered.lines ++ recordsOf sources⟩) <$>
        inputs.mapM (scanned parse files) := by
  induction inputs generalizing gathered with
  | nil => simp [scanAll, recordsOf, Functor.map, Except.map, pure, Except.pure]
  | cons path inputs ih =>
    simp only [scanAll, scanTags, Attempt.result_bind, ih, List.mapM_cons]
    change scanned parse files path >>= _ >>= _ = _
    cases scanned parse files path with
    | error e => rfl
    | ok source =>
      cases inputs.mapM (scanned parse files) with
      | error e => rfl
      | ok sources =>
        simp [bind, Except.bind, Functor.map, Except.map, pure, Except.pure, TagList.extend,
          recordsOf]

theorem result_gatherTags :
    (gatherTags parse files o).result = do
      let inputs ← (o.inputs files).result
      let sources ← inputs.mapM (scanned parse files)
      return ⟨recordsOf sources⟩ := by
  simp only [gatherTags, Attempt.result_bind, result_scanAll, Attempt.result_note,
    Attempt.result_pure]
  cases (o.inputs files).result with
  | error e => rfl
  | ok inputs =>
    cases h : inputs.mapM (scanned parse files) <;>
      simp [h, bind, Except.bind, Functor.map, Except.map, pure, Except.pure]

theorem result_gatherTags_of_firstFailure {before after : List String} {path : String} {e : Error}
    (h : (o.inputs files).result = .ok (before ++ path :: after))
    (first : FirstFailure (scanned parse files) before path e) :
    (gatherTags parse files o).result = .error e := by
  rw [result_gatherTags, h]
  simp [bind, Except.bind, mapM_eq_error first]

theorem result_gatherTags_eq_ok_iff {tags : TagList} :
    (gatherTags parse files o).result = .ok tags ↔ ∃ inputs sources,
      (o.inputs files).result = .ok inputs ∧
      List.Forall₂ (fun path source => scanned parse files path = .ok source) inputs sources ∧
      tags = ⟨recordsOf sources⟩ := by
  simp only [result_gatherTags, bind_eq_ok_iff, mapM_eq_ok_iff, pure, Except.pure,
    Except.ok.injEq]
  constructor
  · rintro ⟨inputs, found, sources, scans, rfl⟩
    exact ⟨inputs, sources, found, scans, rfl⟩
  · rintro ⟨inputs, sources, found, scans, rfl⟩
    exact ⟨inputs, found, sources, scans, rfl⟩

theorem scanned_eq_error {path : String} {e : Error} (h : scanned parse files path = .error e) :
    (∃ cause, e = .readFailed path cause) ∨ ∃ d, e = .parseFailed path d := by
  simp only [scanned, scanFile, Attempt.result_bind, Attempt.result_ofExcept, Attempt.result_note,
    bind_eq_error_iff, mapError_eq_error_iff] at h
  obtain ⟨cause, -, rfl⟩ | ⟨info, -, again⟩ := h
  · exact .inl ⟨cause, rfl⟩
  · obtain ⟨⟨⟩⟩ | ⟨_, -, ⟨cause, -, rfl⟩ | ⟨bytes, -, d, -, rfl⟩⟩ := again
    · exact .inl ⟨cause, rfl⟩
    · exact .inr ⟨d, rfl⟩

theorem result_gatherTags_ne_io (cause : String) :
    (gatherTags parse files o).result ≠ .error (.io cause) := by
  rw [result_gatherTags]
  intro failed
  obtain found | ⟨inputs, -, failed⟩ := bind_eq_error_iff.1 failed
  · obtain ⟨-, _, _, _, _, -, -, other⟩ := result_inputs_eq_error_iff.1 found
    cases other
  · obtain unread | ⟨_, -, done⟩ := bind_eq_error_iff.1 failed
    · obtain ⟨_, _, _, -, first⟩ := mapM_eq_error_iff.1 unread
      obtain ⟨_, other⟩ | ⟨_, other⟩ := scanned_eq_error first.fails <;> cases other
    · cases done

/-- What a run leaves that has gathered its tags. -/
def delivered (fs : FileSystem) (o : Options) (sink : Sink) (log : List Event) (tags : TagList) :
    Outcome :=
  let written := tags.writeTo sink
  match o.output with
  | none => ⟨log, sent written.failure, written.bytes, fs⟩
  | some path => match fs.write path written.bytes with
    | .ok changed => ⟨log, sent written.failure, [], changed⟩
    | .error cause => ⟨log, .error (.writeFailed path cause), [], fs⟩

variable {fs : FileSystem} {sink : Sink}

theorem log_delivered (log : List Event) (tags : TagList) :
    (delivered fs o sink log tags).log = log := by
  unfold delivered
  dsimp only
  split
  · rfl
  · split <;> rfl

theorem run_deliver (log : List Event) (tags : TagList) (w : World) :
    ((World.host sink).deliver o tags).run w =
      ((delivered w.files o sink log tags).result,
        { w with
          output := w.output ++ (delivered w.files o sink log tags).output
          files := (delivered w.files o sink log tags).files }) := by
  unfold Host.deliver delivered
  cases o.output with
  | none => rfl
  | some path =>
    cases written : w.files.write path (tags.writeTo sink).bytes <;>
      simp [World.host, TagList.writeTo] at written ⊢ <;> simp [written] <;> rfl

theorem run_host (emit : List Event → StateM World Unit) (w : World) :
    ((World.host sink).run emit parse o).run w =
      let logged := ((emit (gatherTags parse w.files.view o).log).run w).2
      match (gatherTags parse w.files.view o).result with
      | .ok tags => ((World.host sink).deliver o tags).run logged
      | .error e => (.error e, logged) := by
  unfold Host.run
  cases gathered : (gatherTags parse w.files.view o).result <;> simp [World.host, gathered] <;> rfl

theorem run_of_error {e : Error} (h : (gatherTags parse fs.view o).result = .error e) :
    run parse fs o sink = ⟨(gatherTags parse fs.view o).log, .error e, [], fs⟩ := by
  rw [run, run_host, h]
  rfl

theorem run_of_ok {tags : TagList} (h : (gatherTags parse fs.view o).result = .ok tags) :
    run parse fs o sink = delivered fs o sink (gatherTags parse fs.view o).log tags := by
  rw [run, run_host, h]
  dsimp only
  rw [run_deliver (gatherTags parse fs.view o).log]
  exact congrArg (Outcome.mk · _ _ _) (log_delivered _ tags).symm

/-- The tag file can be created where the options say. -/
def Options.Deliverable (o : Options) (fs : FileSystem) : Prop :=
  ∀ path, o.output = some path → ∃ location, fs.target path = .ok location

theorem sent_eq_ok_iff {failure : Option String} : sent failure = .ok () ↔ failure = none := by
  cases failure <;> simp [sent]

theorem result_delivered_eq_ok_iff {log : List Event} {tags : TagList} :
    (delivered fs o sink log tags).result = .ok () ↔ o.Deliverable fs ∧ tags.Fits sink := by
  unfold delivered Options.Deliverable TagList.Fits
  cases o.output with
  | none => simp [sent_eq_ok_iff]
  | some path =>
    cases target : fs.target path with
    | error cause => simp [FileSystem.write_eq_error_iff.2 target, target]
    | ok location =>
      obtain ⟨changed, written, -⟩ := FileSystem.exists_write target (tags.writeTo sink).bytes
      simp [written, target, sent_eq_ok_iff]

theorem result_delivered {log : List Event} {tags : TagList} (h : o.Deliverable fs) :
    (delivered fs o sink log tags).result = sent (tags.writeTo sink).failure := by
  unfold delivered
  cases output : o.output with
  | none => rfl
  | some path =>
    obtain ⟨location, target⟩ := h path output
    obtain ⟨changed, written, -⟩ := FileSystem.exists_write target (tags.writeTo sink).bytes
    simp only [written]

/-- A tag file that does not arrive could not be created, or there was no room for all of it. -/
theorem error_of_delivered {log : List Event} {tags : TagList} {e : Error}
    (failed : (delivered fs o sink log tags).result = .error e) :
    (∃ path cause, o.output = some path ∧ fs.target path = .error cause ∧
      e = .writeFailed path cause) ∨
    o.Deliverable fs ∧ (tags.writeTo sink).failure = some sink.failure ∧ e = .io sink.failure := by
  by_cases deliverable : o.Deliverable fs
  · rw [result_delivered deliverable] at failed
    cases failure : (tags.writeTo sink).failure with
    | none =>
      rw [failure] at failed
      cases failed
    | some cause =>
      obtain ⟨rfl, -⟩ := Sink.failure_write failure
      rw [failure] at failed
      exact .inr ⟨deliverable, rfl, (Except.error.inj failed).symm⟩
  · obtain ⟨path, output, nowhere⟩ : ∃ path, o.output = some path ∧
        ∀ location, fs.target path ≠ .ok location := by
      simpa [Options.Deliverable] using deliverable
    cases target : fs.target path with
    | ok location => exact absurd target (nowhere location)
    | error cause =>
      unfold delivered at failed
      simp only [output, FileSystem.write_eq_error_iff.2 target] at failed
      exact .inl ⟨path, cause, output, target, (Except.error.inj failed).symm⟩

theorem result_run_eq_ok_iff : (run parse fs o sink).result = .ok () ↔
    ∃ tags, (gatherTags parse fs.view o).result = .ok tags ∧ o.Deliverable fs ∧
      tags.Fits sink := by
  cases gathered : (gatherTags parse fs.view o).result with
  | error e => simp [run_of_error gathered]
  | ok tags => simp [run_of_ok gathered, result_delivered_eq_ok_iff]

theorem replaced_of_run {path : String} (h : (run parse fs o sink).result = .ok ())
    (output : o.output = some path) :
    ∃ tags location, (gatherTags parse fs.view o).result = .ok tags ∧ tags.Fits sink ∧
      fs.target path = .ok location ∧
      fs.Replaced (run parse fs o sink).files location tags.fileBytes := by
  obtain ⟨tags, gathered, deliverable, fits⟩ := result_run_eq_ok_iff.1 h
  obtain ⟨location, target⟩ := deliverable path output
  obtain ⟨changed, written, replaced⟩ := FileSystem.exists_write target tags.fileBytes
  refine ⟨tags, location, gathered, fits, target, ?_⟩
  rw [run_of_ok gathered, delivered, output]
  simpa only [fits.bytes_writeTo, written] using replaced

structure Outcome.Agrees (a b : Outcome) : Prop where
  result : b.result = a.result
  output : b.output = a.output
  files : b.files = a.files

theorem agrees_delivered {o' : Options} {log log' : List Event} {tags tags' : TagList}
    (output : o'.output = o.output) (same : tags.writeTo sink = tags'.writeTo sink) :
    (delivered fs o sink log tags).Agrees (delivered fs o' sink log' tags') := by
  unfold delivered
  rw [output, same]
  cases o.output with
  | none => exact ⟨rfl, rfl, rfl⟩
  | some path =>
    dsimp only
    split <;> exact ⟨rfl, rfl, rfl⟩

end TagIndex
