import TagIndex.Proofs.Run.Exit
import TagIndex.Proofs.Run.Explicit
import Mathlib.Data.Set.List

/-! What a run logs: the walked files that are left out, then two events for each input that scans,
and in the end how many inputs and tags there are. The log breaks off where the run fails to read
an input. -/

namespace TagIndex
open Files CommandLine Text

variable {parse : String → Tree} {fs : FileSystem} {o : Options} {path : String} {sink : Sink}

def excludedEvent (path : String) : Event := ⟨.debug, "excluded", [("path", path)]⟩

def scanningEvent (path : String) (size : Nat) : Event :=
  ⟨.debug, "scanning", [("path", path), ("size", toString size)]⟩

def extractedEvent (path : String) (tags : Nat) : Event :=
  ⟨.debug, "extracted", [("path", path), ("tags", toString tags)]⟩

def writingEvent (files tags : Nat) : Event :=
  ⟨.debug, "writing tag file", [("files", toString files), ("tags", toString tags)]⟩

theorem repr_injective : Function.Injective Nat.repr := by
  intro m n same
  have digits : Nat.toDigits 10 m = Nat.toDigits 10 n := by
    rw [← Nat.toList_repr, same, Nat.toList_repr]
  rw [← Nat.ofDigitChars_ten_toDigits (n := m), digits, Nat.ofDigitChars_ten_toDigits]

theorem scanningEvent_inj {p q : String} {m n : Nat} :
    scanningEvent p m = scanningEvent q n ↔ p = q ∧ m = n := by
  simp [scanningEvent, repr_injective.eq_iff]

-- Events of different kinds differ in their messages.
@[simp] theorem excludedEvent_ne_scanning {p q : String} {n : Nat} :
    excludedEvent p ≠ scanningEvent q n := by
  simp [excludedEvent, scanningEvent]

@[simp] theorem scanningEvent_ne_extracted {p q : String} {m n : Nat} :
    scanningEvent p m ≠ extractedEvent q n := by
  simp [scanningEvent, extractedEvent]

@[simp] theorem scanningEvent_ne_writing {p : String} {n files tags : Nat} :
    scanningEvent p n ≠ writingEvent files tags := by
  simp [scanningEvent, writingEvent]

structure Options.Rejects (o : Options) (directory : Node) (chain : List String) : Prop where
  reaches : directory.Reaches chain
  extension : ∃ above stem, stem ≠ "" ∧ chain = above ++ [stem ++ ".go"]
  excluded : o.shouldScan (chainText chain) = false

inductive Options.Drops (o : Options) (fs : FileSystem) (path : String) : List String → Prop
  | nothing (unwalked : o.recurse = true →
      ∃ n, fs.node path = .ok n ∧ ∀ entries, n ≠ .directory entries) : Drops o fs path []
  | walked {entries : Entries} {chains : List (List String)} (walks : o.recurse = true)
      (stands : fs.node path = .ok (.directory entries))
      (ascending : chains.Pairwise fun a b => Node.chainKey a < Node.chainKey b)
      (complete : ∀ chain, chain ∈ chains ↔ o.Rejects (.directory entries) chain) :
      Drops o fs path (chains.map fun chain => join path (chainText chain))

def Options.droppedChains (o : Options) (files : View) (path : String) : List (List String) :=
  (goFiles files path).filter fun chain => !o.shouldScan (chainText chain)

theorem mem_droppedChains_iff {n : Node} (h : fs.node path = .ok n) {chain : List String} :
    chain ∈ o.droppedChains fs.view path ↔ o.Rejects n chain := by
  rw [Options.droppedChains, List.mem_filter, mem_goFiles_iff h, Bool.not_eq_true']
  exact ⟨fun h => ⟨h.1.1, h.1.2, h.2⟩, fun h => ⟨⟨h.reaches, h.extension⟩, h.excluded⟩⟩

/-- What is logged of something that a walk meets. -/
def Options.event? (o : Options) (root : String) : Visit → Option Event
  | .unreadable error =>
    some ⟨.warn, "skipping unreadable entry", [("root", root), ("error", error)]⟩
  | .file chain =>
    if chain.getLast?.any isGoFileName && !o.shouldScan (relativePath root (joinAll root chain))
    then some (excludedEvent (joinAll root chain)) else none

theorem log_collect (o : Options) (root : String) (visits : List Visit) :
    (o.collect root visits).log = visits.filterMap (o.event? root) := by
  induction visits with
  | nil => rfl
  | cons visit visits ih =>
    cases visit with
    | unreadable error =>
      rw [List.filterMap_cons, ← ih]
      rfl
    | file chain =>
      rw [List.filterMap_cons, ← ih, Options.event?, Options.collect]
      by_cases extension : chain.getLast?.any isGoFileName = true
      · rw [if_pos extension]
        by_cases kept : o.shouldScan (relativePath root (joinAll root chain)) = true
        · rw [if_pos kept, Attempt.log_bind_pure, if_neg (by simp [kept])]
        · rw [if_neg kept, if_pos (by simp [extension, kept])]
          rfl
      · rw [if_neg extension, if_neg (by simp [extension])]

theorem relativePath_join_of_mem_goFiles {n : Node} (h : fs.node path = .ok n)
    {chain : List String} (mem : chain ∈ goFiles fs.view path) :
    relativePath path (join path (chainText chain)) = chainText chain := by
  obtain ⟨some_name, named⟩ := named_of_mem_goFiles h mem
  rw [← joinAll_eq_join path some_name named, relativePath_of_mem_goFiles h mem]

theorem log_walk {n : Node} (h : fs.node path = .ok n) :
    (o.collect path (fs.view.walk path)).log =
      ((o.droppedChains fs.view path).map fun chain => join path (chainText chain)).map
        excludedEvent := by
  rw [walk_eq h, log_collect, List.filterMap_map, Options.droppedChains, goFiles_eq h,
    List.filter_filter, List.map_map, ← List.filterMap_eq_map, List.filterMap_filter]
  refine List.filterMap_congr fun chain below => ?_
  by_cases extension : chain.getLast?.any isGoFileName = true
  · have mem : chain ∈ goFiles fs.view path := by
      rw [goFiles_eq h]
      exact List.mem_filter.2 ⟨below, extension⟩
    obtain ⟨some_name, named⟩ := named_of_mem_goFiles h mem
    simp [Options.event?, extension, joinAll_eq_join path some_name named,
      relativePath_join_of_mem_goFiles h mem]
  · simp [Options.event?, extension]

theorem exists_drops (walks : o.recurse = true) {inputs : List String}
    (h : (o.expandOne fs.view path).result = .ok inputs) :
    ∃ dropped, o.Drops fs path dropped ∧
      (o.expandOne fs.view path).log = dropped.map excludedEvent := by
  obtain ⟨n, stands⟩ := exists_node_of_result h
  have info : fs.view.info path = .ok n.info := map_eq_ok_iff.2 ⟨n, stands, rfl⟩
  rw [Options.expandOne, info]
  cases n with
  | file content | link target => exact ⟨[], .nothing fun _ => ⟨_, stands, by simp⟩, rfl⟩
  | directory entries =>
    refine ⟨_, .walked walks stands ((pairwise_goFiles stands).filter _)
      fun chain => mem_droppedChains_iff stands, ?_⟩
    exact log_walk stands

theorem exists_drops_append (walks : o.recurse = true) {before : List String}
    (each : ∀ p ∈ before, ∃ inputs, (o.expandOne fs.view p).result = .ok inputs) :
    ∃ dropped, List.Forall₂ (o.Drops fs) before dropped ∧
      ∀ rest, (o.expandAll fs.view (before ++ rest)).log =
        dropped.flatten.map excludedEvent ++ (o.expandAll fs.view rest).log := by
  induction before with
  | nil => exact ⟨[], .nil, fun rest => rfl⟩
  | cons p before ih =>
    obtain ⟨⟨inputs, first⟩, later⟩ := List.forall_mem_cons.1 each
    obtain ⟨here, drops, log⟩ := exists_drops walks first
    obtain ⟨dropped, dropsLater, logLater⟩ := ih later
    refine ⟨here :: dropped, .cons drops dropsLater, fun rest => ?_⟩
    rw [List.cons_append, Options.expandAll, Attempt.bind_of_ok first, Attempt.log_bind_pure,
      logLater, log, List.flatten_cons, List.map_append, List.append_assoc]

theorem log_inputs_of_ok {inputs : List String} (found : (o.inputs fs.view).result = .ok inputs) :
    ∃ dropped, List.Forall₂ (o.Drops fs) o.files dropped ∧
      (o.inputs fs.view).log = dropped.flatten.map excludedEvent := by
  cases walks : o.recurse with
  | false =>
    refine ⟨o.files.map fun _ => [], ?_, ?_⟩
    · rw [List.forall₂_map_right_iff, List.forall₂_same]
      exact fun p _ => .nothing fun walks' => absurd (walks.symm.trans walks') Bool.false_ne_true
    · simp [Options.inputs, walks, pure]
  | true =>
    obtain ⟨parts, each, -⟩ := exists_parts walks found
    obtain ⟨dropped, drops, log⟩ :=
      exists_drops_append walks (exists_mapM_eq_ok_iff.1 ⟨parts, mapM_eq_ok_iff.2 each⟩)
    refine ⟨dropped, drops, ?_⟩
    rw [Options.inputs, if_pos walks, ← List.append_nil o.files, log]
    exact List.append_nil _

theorem log_inputs_of_error {e : Error} (failed : (o.inputs fs.view).result = .error e) :
    ∃ before p after cause dropped, o.files = before ++ p :: after ∧
      FirstFailure fs.info before p cause ∧ e = .readFailed p cause ∧
      List.Forall₂ (o.Drops fs) before dropped ∧
      (o.inputs fs.view).log = dropped.flatten.map excludedEvent := by
  obtain ⟨walks, before, p, after, cause, split, first, rfl⟩ := result_inputs_eq_error_iff.1 failed
  obtain ⟨dropped, drops, log⟩ := exists_drops_append walks
    fun q mem => result_expandOne_eq_ok_iff.2 (first.succeeds q mem)
  refine ⟨before, p, after, cause, dropped, split, first, rfl, drops, ?_⟩
  have nowhere : fs.view.info p = .error cause := first.fails
  have refused : o.expandOne fs.view p = ⟨[], .error (.readFailed p cause)⟩ := by
    rw [Options.expandOne, nowhere]
    rfl
  have result : (o.expandOne fs.view p).result = .error (.readFailed p cause) := by rw [refused]
  rw [Options.inputs, if_pos walks, split, log, Options.expandAll, Attempt.bind_of_error result,
    refused]
  exact List.append_nil _

/-- The line that is logged before an input is read; none if nothing is known of the input. -/
def announced (files : View) (path : String) : List Event :=
  match files.info path with
  | .ok info => [scanningEvent path info.size]
  | .error _ => []

theorem announced_of_file {content : List UInt8} (h : fs.node path = .ok (.file content)) :
    announced fs.view path = [scanningEvent path content.length] := by
  have info : fs.view.info path = .ok ⟨false, content.length⟩ := map_eq_ok_iff.2 ⟨_, h, rfl⟩
  rw [announced, info]

section

variable {files : View} {source : SourceFile} {e : Error}

theorem log_scanFile (parse : String → Tree) (files : View) (path : String) :
    (scanFile parse files path).log = announced files path := by
  unfold scanFile announced
  cases files.info path with
  | error cause => rfl
  | ok info =>
    -- Nothing more is logged, whether the input is read or not.
    cases files.read path <;> rfl

theorem scanTags_of_ok (h : scanned parse files path = .ok source) :
    scanTags parse files path =
      ⟨announced files path ++ [extractedEvent path source.tags.length], .ok source.tags⟩ := by
  rw [scanTags, Attempt.bind_of_ok h, log_scanFile]
  rfl

theorem scanTags_of_error (h : scanned parse files path = .error e) :
    scanTags parse files path = ⟨announced files path, .error e⟩ := by
  rw [scanTags, Attempt.bind_of_error h, log_scanFile]

end

structure ScannedFile (parse : String → Tree) (fs : FileSystem) where
  path : String
  content : List UInt8
  source : SourceFile
  holds : fs.node path = .ok (.file content)
  declares : SourceFile.read parse path content = .ok source

namespace ScannedFile

def events (s : ScannedFile parse fs) : List Event :=
  [scanningEvent s.path s.content.length, extractedEvent s.path s.source.tags.length]

theorem scanned_eq_ok (s : ScannedFile parse fs) :
    scanned parse fs.view s.path = .ok s.source := by
  rw [scanned_of_file s.holds, s.declares]
  rfl

theorem scanTags_eq (s : ScannedFile parse fs) :
    scanTags parse fs.view s.path = ⟨s.events, .ok s.source.tags⟩ := by
  rw [scanTags_of_ok s.scanned_eq_ok, announced_of_file s.holds]
  rfl

end ScannedFile

theorem exists_scannedFile {source : SourceFile} (h : scanned parse fs.view path = .ok source) :
    ∃ s : ScannedFile parse fs, s.path = path := by
  obtain ⟨content, holds⟩ := file_of_scanned h
  rw [scanned_of_file holds] at h
  cases declares : SourceFile.read parse path content with
  | ok source => exact ⟨⟨path, content, source, holds, declares⟩, rfl⟩
  | error d =>
    rw [declares] at h
    cases h

theorem exists_scannedFiles {paths : List String}
    (h : ∀ p ∈ paths, ∃ source, scanned parse fs.view p = .ok source) :
    ∃ scans : List (ScannedFile parse fs), scans.map (·.path) = paths := by
  have listed : paths ∈ Set.range (List.map fun s : ScannedFile parse fs => s.path) := by
    rw [Set.range_list_map]
    intro p mem
    obtain ⟨source, scans⟩ := h p mem
    exact exists_scannedFile scans
  exact listed

theorem log_scanAll_append (gathered : TagList) (scans : List (ScannedFile parse fs))
    (rest : List String) :
    (scanAll parse fs.view gathered (scans.map (·.path) ++ rest)).log =
      scans.flatMap (·.events) ++ (scanAll parse fs.view
        ⟨gathered.lines ++ recordsOf (scans.map (·.source))⟩ rest).log := by
  induction scans generalizing gathered with
  | nil => simp [recordsOf]
  | cons s scans ih =>
    have result : (scanTags parse fs.view s.path).result = .ok s.source.tags := by
      rw [s.scanTags_eq]
    rw [List.map_cons, List.cons_append, scanAll, Attempt.bind_of_ok result, ih, s.scanTags_eq]
    simp [recordsOf, TagList.extend]

def tagTotal : List (ScannedFile parse fs) → Nat
  | [] => 0
  | s :: scans => s.source.tags.length + tagTotal scans

theorem length_recordsOf (scans : List (ScannedFile parse fs)) :
    (recordsOf (scans.map (·.source))).length = tagTotal scans := by
  induction scans with
  | nil => rfl
  | cons s scans ih =>
    have first : recordsOf ((s :: scans).map (·.source)) =
        s.source.tags.map (·.text) ++ recordsOf (scans.map (·.source)) := rfl
    rw [first, List.length_append, List.length_map, ih, tagTotal]

inductive Options.Logs (o : Options) (parse : String → Tree) (fs : FileSystem)
    (outcome : Outcome) : Prop
  | unexpanded {before after : List String} {p : String} {cause : SystemError}
      {dropped : List (List String)}
      (inputs : (o.inputs fs.view).result = .error (.readFailed p cause))
      (split : o.files = before ++ p :: after) (first : FirstFailure fs.info before p cause)
      (drops : List.Forall₂ (o.Drops fs) before dropped)
      (log : outcome.log = dropped.flatten.map excludedEvent)
      (result : outcome.result = .error (.readFailed p cause)) : Logs o parse fs outcome
  | unscanned {dropped : List (List String)} {scans : List (ScannedFile parse fs)} {p : String}
      {after : List String} {e : Error}
      (inputs : (o.inputs fs.view).result = .ok (scans.map (·.path) ++ p :: after))
      (drops : List.Forall₂ (o.Drops fs) o.files dropped)
      (fails : scanned parse fs.view p = .error e)
      (log : outcome.log =
        dropped.flatten.map excludedEvent ++ scans.flatMap (·.events) ++ announced fs.view p)
      (result : outcome.result = .error e) : Logs o parse fs outcome
  | scanned {dropped : List (List String)} {scans : List (ScannedFile parse fs)}
      (inputs : (o.inputs fs.view).result = .ok (scans.map (·.path)))
      (drops : List.Forall₂ (o.Drops fs) o.files dropped)
      (log : outcome.log = dropped.flatten.map excludedEvent ++ scans.flatMap (·.events) ++
        [writingEvent scans.length (tagTotal scans)])
      (written : outcome.result = .ok () → ∃ records, records.length = tagTotal scans ∧
        records.Perm (scans.flatMap fun s => s.source.tags.map (·.text)) ∧
        o.Delivered fs outcome (Utf8.encode (tagFileText records)))
      (refused : ∀ e, outcome.result = .error e →
        (∃ p cause, o.output = some p ∧ e = .writeFailed p cause) ∨ ∃ cause, e = .io cause) :
      Logs o parse fs outcome

theorem logs_of_failure {before after : List String} {p : String} {e : Error}
    (found : (o.inputs fs.view).result = .ok (before ++ p :: after))
    (first : FirstFailure (scanned parse fs.view) before p e) :
    o.Logs parse fs (run parse fs o sink) := by
  obtain ⟨dropped, drops, log⟩ := log_inputs_of_ok found
  obtain ⟨scans, rfl⟩ := exists_scannedFiles first.succeeds
  have unread := scanTags_of_error first.fails
  have scanLog : (scanAll parse fs.view {} (scans.map (·.path) ++ p :: after)).log =
      scans.flatMap (·.events) ++ announced fs.view p := by
    rw [log_scanAll_append, scanAll, Attempt.bind_of_error (by rw [unread]), unread]
  have scanResult : (scanAll parse fs.view {} (scans.map (·.path) ++ p :: after)).result =
      .error e := by
    rw [result_scanAll, mapM_eq_error first]
    rfl
  refine .unscanned found drops first.fails ?_ ?_
  · rw [log_run, gatherTags, Attempt.bind_of_ok found, Attempt.bind_of_error scanResult, scanLog,
      log, List.append_assoc]
  · rw [run_of_error (result_gatherTags_of_firstFailure found first)]

theorem logs_of_success {inputs : List String} (found : (o.inputs fs.view).result = .ok inputs)
    (each : ∀ p ∈ inputs, ∃ source, scanned parse fs.view p = .ok source) :
    o.Logs parse fs (run parse fs o sink) := by
  obtain ⟨dropped, drops, log⟩ := log_inputs_of_ok found
  obtain ⟨scans, rfl⟩ := exists_scannedFiles each
  have sources : (scans.map (·.path)).mapM (scanned parse fs.view) =
      .ok (scans.map (·.source)) := by
    rw [mapM_eq_ok_iff, List.forall₂_map_left_iff, List.forall₂_map_right_iff, List.forall₂_same]
    exact fun s _ => s.scanned_eq_ok
  have scanLog : (scanAll parse fs.view {} (scans.map (·.path))).log =
      scans.flatMap (·.events) := by
    rw [← List.append_nil (scans.map (·.path)), log_scanAll_append]
    exact List.append_nil _
  have scanResult : (scanAll parse fs.view {} (scans.map (·.path))).result =
      .ok ⟨recordsOf (scans.map (·.source))⟩ := by
    rw [result_scanAll, sources]
    rfl
  have gathered : (gatherTags parse fs.view o).result = .ok ⟨recordsOf (scans.map (·.source))⟩ :=
    result_gatherTags_eq_ok_iff.2 ⟨_, _, found, mapM_eq_ok_iff.1 sources, rfl⟩
  refine .scanned found drops ?_ ?_ ?_
  · rw [log_run, gatherTags, Attempt.bind_of_ok found, Attempt.bind_of_ok scanResult, scanLog, log,
      ← length_recordsOf, List.append_assoc]
    simp only [List.length_map]
    rfl
  · intro succeeds
    obtain ⟨deliverable, fits⟩ := result_delivered_eq_ok_iff.1 (run_of_ok gathered ▸ succeeds)
    have perm := TagList.sorted_perm ⟨recordsOf (scans.map (·.source))⟩
    refine ⟨_, perm.length_eq.trans (length_recordsOf scans), ?_, ?_⟩
    · exact perm.trans (.of_eq (List.flatMap_map ..))
    · rw [run_of_ok gathered, ← TagList.fileBytes_eq]
      exact delivered_delivered deliverable fits
  · intro e failed
    rw [run_of_ok gathered] at failed
    obtain ⟨p, cause, output, -, rfl⟩ | ⟨-, -, rfl⟩ := error_of_delivered failed
    · exact .inl ⟨p, cause, output, rfl⟩
    · exact .inr ⟨_, rfl⟩

theorem logs_run (parse : String → Tree) (fs : FileSystem) (o : Options) (sink : Sink) :
    o.Logs parse fs (run parse fs o sink) := by
  cases found : (o.inputs fs.view).result with
  | error e =>
    have gathered : gatherTags parse fs.view o = ⟨(o.inputs fs.view).log, .error e⟩ := by
      rw [gatherTags, Attempt.bind_of_error found]
    obtain ⟨before, p, after, cause, dropped, split, first, rfl, drops, log⟩ :=
      log_inputs_of_error found
    refine .unexpanded found split first drops ?_ ?_
    · rw [log_run, gathered, log]
    · rw [run_of_error (by rw [gathered])]
  | ok inputs =>
    cases all : inputs.mapM (scanned parse fs.view) with
    | error e =>
      obtain ⟨before, p, after, rfl, first⟩ := mapM_eq_error_iff.1 all
      exact logs_of_failure found first
    | ok sources => exact logs_of_success found (exists_mapM_eq_ok_iff.1 ⟨sources, all⟩)

theorem level_of_mem_announced {files : View} {p : String} {event : Event}
    (mem : event ∈ announced files p) : event.level = .debug := by
  unfold announced at mem
  split at mem
  · rw [List.mem_singleton.1 mem, scanningEvent]
  · cases mem

theorem ScannedFile.level_of_mem_events {s : ScannedFile parse fs} {event : Event}
    (mem : event ∈ s.events) : event.level = .debug := by
  obtain rfl | rfl : event = scanningEvent s.path s.content.length ∨
      event = extractedEvent s.path s.source.tags.length := by
    simpa [events] using mem
  · rfl
  · rfl

theorem Options.Logs.level_of_mem {outcome : Outcome} (h : o.Logs parse fs outcome)
    {event : Event} (mem : event ∈ outcome.log) : event.level = .debug := by
  have excluded {paths : List String} (mem : event ∈ paths.map excludedEvent) :
      event.level = .debug := by
    obtain ⟨p, -, rfl⟩ := List.mem_map.1 mem
    rfl
  have read {scans : List (ScannedFile parse fs)} (mem : event ∈ scans.flatMap (·.events)) :
      event.level = .debug := by
    obtain ⟨s, -, mem⟩ := List.mem_flatMap.1 mem
    exact s.level_of_mem_events mem
  cases h with
  | unexpanded _ _ _ _ log _ => exact excluded (log ▸ mem)
  | unscanned _ _ _ log _ =>
    simp only [log, List.mem_append] at mem
    obtain (mem | mem) | mem := mem
    · exact excluded mem
    · exact read mem
    · exact level_of_mem_announced mem
  | scanned _ _ log _ _ =>
    simp only [log, List.mem_append, List.mem_singleton] at mem
    obtain (mem | mem) | rfl := mem
    · exact excluded mem
    · exact read mem
    · rfl

/-- A run whose log is not asked for says nothing on standard error but why it failed. -/
theorem errors_of_quiet {words : List String} {read : Reader} {g : Given}
    (render : Event → String) (asked : read words = .ok g) (quiet : g.verbose = false) :
    (program parse fs words sink read render).errors =
      match (run parse fs g.options sink).result with
      | .ok () => ""
      | .error e => e.message ++ "\n" := by
  have logs := logs_run parse fs g.options sink
  have hidden : (run parse fs g.options sink).log.filter (·.shown false) = [] := by
    rw [List.filter_eq_nil_iff]
    intro event mem
    simp [Event.shown, logs.level_of_mem mem]
  have exit : program parse fs words sink read render =
      (run parse fs g.options sink).exit render g.verbose := program_of_ok asked
  rw [exit, Outcome.exit, quiet, logText, hidden]
  cases (run parse fs g.options sink).result with
  | ok _ => rfl
  | error e => exact String.empty_append

theorem announced_of_mem {files : View} {p q : String} {size : Nat}
    (mem : scanningEvent p size ∈ announced files q) :
    p = q ∧ announced files q = [scanningEvent p size] := by
  unfold announced at mem ⊢
  split at mem
  · obtain ⟨rfl, rfl⟩ := scanningEvent_inj.1 (List.mem_singleton.1 mem)
    exact ⟨rfl, rfl⟩
  · cases mem

theorem ScannedFile.announced_of_mem {scans : List (ScannedFile parse fs)} {p : String}
    {size : Nat} (mem : scanningEvent p size ∈ scans.flatMap (·.events)) :
    p ∈ scans.map (·.path) ∧ announced fs.view p = [scanningEvent p size] := by
  obtain ⟨s, listed, line⟩ := List.mem_flatMap.1 mem
  obtain ⟨rfl, rfl⟩ : p = s.path ∧ size = s.content.length := by
    simpa [events, scanningEvent_inj] using line
  exact ⟨List.mem_map.2 ⟨s, listed, rfl⟩, announced_of_file s.holds⟩

theorem Options.Logs.input_of_mem {outcome : Outcome} (h : o.Logs parse fs outcome) {p : String}
    {size : Nat} (mem : scanningEvent p size ∈ outcome.log) :
    (∃ inputs, (o.inputs fs.view).result = .ok inputs ∧ p ∈ inputs) ∧
      announced fs.view p = [scanningEvent p size] := by
  cases h with
  | unexpanded _ _ _ _ log _ => simp [log] at mem
  | @unscanned dropped scans q after e inputs _ _ log _ =>
    simp only [log, List.mem_append, List.mem_map, excludedEvent_ne_scanning, and_false,
      exists_false, false_or] at mem
    obtain earlier | own := mem
    · obtain ⟨listed, line⟩ := ScannedFile.announced_of_mem earlier
      exact ⟨⟨_, inputs, List.mem_append_left _ listed⟩, line⟩
    · obtain ⟨rfl, line⟩ := announced_of_mem own
      exact ⟨⟨_, inputs, by simp⟩, line⟩
  | @scanned dropped scans inputs _ log _ _ =>
    simp only [log, List.mem_append, List.mem_map, List.mem_singleton, excludedEvent_ne_scanning,
      scanningEvent_ne_writing, and_false, exists_false, false_or, or_false] at mem
    obtain ⟨listed, line⟩ := ScannedFile.announced_of_mem mem
    exact ⟨⟨_, inputs, listed⟩, line⟩

theorem Options.Drops.not_mem {dropped kept : List String} {p : String}
    (drops : o.Drops fs path dropped) (mem : p ∈ dropped) (expands : o.Expands fs path kept) :
    p ∉ kept := by
  intro mem'
  cases drops with
  | nothing => cases mem
  | @walked entries chains walks stands _ complete =>
    cases expands with
    | itself stands' other =>
      exact other entries (Except.ok.inj (stands'.symm.trans stands))
    | @walked entries' chains' stands' _ complete' =>
      obtain ⟨rfl⟩ := Except.ok.inj (stands'.symm.trans stands)
      obtain ⟨chain, listed, rfl⟩ := List.mem_map.1 mem
      obtain ⟨chain', listed', same⟩ := List.mem_map.1 mem'
      obtain ⟨reaches, extension, excluded⟩ := (complete chain).1 listed
      obtain ⟨reaches', extension', kept⟩ := (complete' chain').1 listed'
      have relative := relativePath_join_of_mem_goFiles stands
        ((mem_goFiles_iff stands).2 ⟨reaches, extension⟩)
      have relative' := relativePath_join_of_mem_goFiles stands
        ((mem_goFiles_iff stands).2 ⟨reaches', extension'⟩)
      rw [same, relative] at relative'
      rw [relative', kept] at excluded
      cases excluded

theorem Options.Logs.scanned_otherwise {outcome : Outcome} (h : o.Logs parse fs outcome)
    {directory p : String} {dropped : List String} {size : Nat}
    (drops : o.Drops fs directory dropped) (left : p ∈ dropped)
    (mem : scanningEvent p size ∈ outcome.log) :
    ∃ other ∈ o.files, other ≠ directory ∧ ∃ kept, o.Expands fs other kept ∧ p ∈ kept := by
  obtain ⟨⟨inputs, found, listed⟩, -⟩ := h.input_of_mem mem
  have walks : o.recurse = true := by
    cases drops with
    | nothing => cases left
    | walked walks => exact walks
  obtain ⟨parts, each, rfl⟩ := exists_parts walks found
  obtain ⟨kept, part, here⟩ := List.mem_flatten.1 listed
  obtain ⟨other, given, expanded⟩ := exists_mem_of_forall₂ each part
  have expands := expands_of_result expanded
  refine ⟨other, given, ?_, kept, expands, here⟩
  rintro rfl
  exact drops.not_mem left expands here

/-- What a run logs when its log is asked for comes before the message of its error, if it has one,
however events are shown. If all inputs scan, their events come in the order of the inputs and are
followed by the number of inputs and of tags, and there are as many records in the tag file. If one
does not, only the inputs before it have both their events, and it has its own first one if anything
is known of it. Before all that comes one event for each file that a walk leaves out. Such a file is
not scanned unless another argument stands for it. -/
theorem verbose_log_accounts {words : List String} {g : Given} (parse : String → Tree)
    (fs : FileSystem) (sink : Sink) (read : Reader) (render : Event → String)
    (asked : read words = .ok g) (verbose : g.verbose = true) :
    ((run parse fs g.options sink).result = .ok () →
      (program parse fs words sink read render).errors =
        String.join ((run parse fs g.options sink).log.map render)) ∧
    (∀ e, (run parse fs g.options sink).result = .error e →
      (program parse fs words sink read render).errors =
        String.join ((run parse fs g.options sink).log.map render) ++ e.message ++ "\n") ∧
    g.options.Logs parse fs (run parse fs g.options sink) ∧
    (∀ p size content, scanningEvent p size ∈ (run parse fs g.options sink).log →
      fs.node p = .ok (.file content) → size = content.length) ∧
    ∀ directory dropped p size, g.options.Drops fs directory dropped → p ∈ dropped →
      scanningEvent p size ∈ (run parse fs g.options sink).log →
      ∃ other ∈ g.files, other ≠ directory ∧ ∃ kept, g.options.Expands fs other kept ∧
        p ∈ kept := by
  have logs := logs_run parse fs g.options sink
  have exit : program parse fs words sink read render =
      (run parse fs g.options sink).exit render g.verbose := program_of_ok asked
  have shown (log : List Event) : logText render true log = String.join (log.map render) := by
    simp [logText, Event.shown]
  refine ⟨fun succeeds => ?_, fun e fails => ?_, logs, fun p size content mem holds => ?_,
    fun directory dropped p size drops left mem => logs.scanned_otherwise drops left mem⟩
  · rw [exit, Outcome.exit, succeeds]
    simp only [verbose, shown]
  · rw [exit, Outcome.exit, fails]
    simp only [verbose, shown, String.append_assoc]
  · obtain ⟨-, line⟩ := logs.input_of_mem mem
    rw [announced_of_file holds] at line
    exact (scanningEvent_inj.1 (List.singleton_inj.1 line)).2.symm

theorem verbose_log_accounts_overwriting :
    CommandLine.read ["-v", "-f", "a.go", "a.go", "a.go"] =
      .ok { files := ["a.go", "a.go"], output := some "a.go", verbose := true } ∧
    (program (fun _ => Sample.tree) Sample.files ["-v", "-f", "a.go", "a.go", "a.go"]).errors =
      String.join ((run (fun _ => Sample.tree) Sample.files Sample.overwriting).log.map
        Event.line) ∧
    Options.Logs { Sample.overwriting with verbose := true } (fun _ => Sample.tree) Sample.files
      (run (fun _ => Sample.tree) Sample.files Sample.overwriting) := by
  have asked : CommandLine.read ["-v", "-f", "a.go", "a.go", "a.go"] =
      .ok { files := ["a.go", "a.go"], output := some "a.go", verbose := true } := by
    decide
  obtain ⟨succeeds, -, logs, -, -⟩ := verbose_log_accounts (fun _ => Sample.tree) Sample.files
    .unlimited CommandLine.read Event.line asked rfl
  have same : run (fun _ => Sample.tree) Sample.files { Sample.overwriting with verbose := true } =
      run (fun _ => Sample.tree) Sample.files Sample.overwriting :=
    run_verbose _ _ true
  rw [show Given.options _ = { Sample.overwriting with verbose := true } from rfl, same]
    at succeeds logs
  exact ⟨asked, succeeds Sample.result_run_overwriting, logs⟩

end TagIndex
