import TagIndex.Proofs.Files.Rewriting
import TagIndex.Proofs.Run.Explicit

/-! A run repeated on the files that it left. The tag file is there now, and it may be one of the
files that are walked; unless it is an input by itself, the second run meets the same inputs with
the same content, and writes the same tag file. -/

namespace TagIndex
open Files

/-- The paths can be followed as far as their length goes, and none of them leads to the
location. -/
def Files.FileSystem.Avoids (fs : FileSystem) (paths : List String) (location : List String) :
    Prop :=
  ∀ p ∈ paths, p.utf8ByteSize ≤ pathLimit ∧ fs.resolve false p ≠ .ok (.present location)

variable {parse : String → Tree} {fs changed : FileSystem} {o : Options} {path : String}
  {location inputs : List String} {content : List UInt8}

theorem mem_keptChains_iff_surfaceAt? {place chain : List String} {entries : Entries}
    (resolved : fs.resolve false path = .ok (.present place))
    (found : fs.root.at? place = some (.directory entries)) :
    chain ∈ o.keptChains fs.view path ↔
      (∃ content, fs.root.surfaceAt? (place ++ chain) = some (.file content)) ∧
      chain.getLast?.any isGoFileName = true ∧ o.shouldScan (chainText chain) = true := by
  have stands := FileSystem.node_of_resolve resolved found
  rw [Options.keptChains, goFiles_eq stands, List.mem_filter, List.mem_filter,
    Node.mem_chains_iff, Node.reaches_iff (sound_of_node stands), Node.surfaceAt?_append found,
    and_assoc]

theorem walked_again {entries : Entries} (h : fs.Replaced changed location content)
    (takes : fs.TakesFile location) (stands : fs.node path = .ok (.directory entries)) :
    ∃ entries', changed.node path = .ok (.directory entries') ∧
      (changed.Avoids ((o.keptChains changed.view path).map fun chain =>
        join path (chainText chain)) location →
      o.keptChains changed.view path = o.keptChains fs.view path) := by
  obtain ⟨place, resolved, found⟩ := FileSystem.exists_location stands
  obtain ⟨entries', resolved', found'⟩ := h.directory takes resolved found
  have stands' := FileSystem.node_of_resolve resolved' found'
  refine ⟨entries', stands', fun avoids => Node.chains_ext (pairwise_keptChains stands')
    (pairwise_keptChains stands) fun chain => ?_⟩
  rw [mem_keptChains_iff_surfaceAt? resolved found]
  constructor
  · intro mem
    have selected := (mem_keptChains_iff stands').1 mem
    obtain ⟨short, elsewhere⟩ := avoids _ (List.mem_map_of_mem mem)
    rw [← selected.joinAll_eq (sound_of_node stands')] at short elsewhere
    -- The path of the file that was written would be an input.
    have other : place ++ chain ≠ location := by
      rintro rfl
      exact elsewhere (FileSystem.resolve_joinAll selected.reaches resolved' found' short)
    rwa [mem_keptChains_iff_surfaceAt? resolved' found', h.kept _ other] at mem
  · rintro ⟨⟨old, stood⟩, listed⟩
    exact (mem_keptChains_iff_surfaceAt? resolved' found').2 ⟨(h.persists takes).file stood, listed⟩

theorem expandOne_again (h : fs.Replaced changed location content)
    (takes : fs.TakesFile location) (found : (o.expandOne fs.view path).result = .ok inputs) :
    ∃ again, (o.expandOne changed.view path).result = .ok again ∧
      (changed.Avoids again location → again = inputs) := by
  obtain ⟨n, stands⟩ := exists_node_of_result found
  obtain ⟨old, rfl⟩ | ⟨entries, rfl⟩ := FileSystem.file_or_directory stands
  · obtain ⟨_, new, -, stands', -⟩ := h.file takes stands
    rw [result_expandOne_of_other stands (by simp)] at found
    exact ⟨_, result_expandOne_of_other stands' (by simp), fun _ => Except.ok.inj found⟩
  · obtain ⟨entries', stands', same⟩ := walked_again (o := o) h takes stands
    rw [result_expandOne_of_directory stands] at found
    refine ⟨_, result_expandOne_of_directory stands', fun avoids => ?_⟩
    rw [same avoids]
    exact Except.ok.inj found

theorem expandAll_again (h : fs.Replaced changed location content) (takes : fs.TakesFile location)
    {paths : List String} (found : (o.expandAll fs.view paths).result = .ok inputs) :
    ∃ again, (o.expandAll changed.view paths).result = .ok again ∧
      (changed.Avoids again location → again = inputs) := by
  induction paths generalizing inputs with
  | nil => exact ⟨_, rfl, fun _ => Except.ok.inj found⟩
  | cons path paths ih =>
    simp only [Options.expandAll, Attempt.result_bind, Attempt.result_pure, bind_eq_ok_iff,
      Except.ok.injEq] at found ⊢
    obtain ⟨head, one, tail, rest, rfl⟩ := found
    obtain ⟨head', one', sameHead⟩ := expandOne_again h takes one
    obtain ⟨tail', rest', sameTail⟩ := ih rest
    refine ⟨_, ⟨head', one', tail', rest', rfl⟩, fun avoids => ?_⟩
    obtain ⟨avoidsHead, avoidsTail⟩ := List.forall_mem_append.1 avoids
    rw [sameHead avoidsHead, sameTail avoidsTail]

theorem inputs_again (h : fs.Replaced changed location content) (takes : fs.TakesFile location)
    (found : (o.inputs fs.view).result = .ok inputs) :
    ∃ again, (o.inputs changed.view).result = .ok again ∧
      (changed.Avoids again location → again = inputs) := by
  unfold Options.inputs at found ⊢
  split
  · rename_i walks
    rw [if_pos walks] at found
    exact expandAll_again h takes found
  · rename_i verbatim
    rw [if_neg verbatim] at found
    exact ⟨_, rfl, fun _ => Except.ok.inj found⟩

theorem scanned_again {source : SourceFile} (h : fs.Replaced changed location content)
    (takes : fs.TakesFile location) (scans : scanned parse fs.view path = .ok source)
    (elsewhere : changed.resolve false path ≠ .ok (.present location)) :
    scanned parse changed.view path = .ok source := by
  obtain ⟨old, stands⟩ := file_of_scanned scans
  obtain ⟨place, new, resolved, stands', same⟩ := h.file takes stands
  have other : place ≠ location := by
    rintro rfl
    exact elsewhere resolved
  rw [scanned_of_file stands', same other, ← scanned_of_file stands]
  exact scans

theorem gathered_again {tags : TagList} (h : fs.Replaced changed location content)
    (takes : fs.TakesFile location) (gathered : (gatherTags parse fs.view o).result = .ok tags)
    (avoids : ∀ inputs, (o.inputs changed.view).result = .ok inputs →
      changed.Avoids inputs location) :
    (o.inputs changed.view).result = (o.inputs fs.view).result ∧
      (gatherTags parse changed.view o).result = .ok tags := by
  obtain ⟨inputs, sources, found, scans, rfl⟩ := result_gatherTags_eq_ok_iff.1 gathered
  obtain ⟨again, found', same⟩ := inputs_again h takes found
  obtain rfl := same (avoids again found')
  refine ⟨found'.trans found.symm, result_gatherTags_eq_ok_iff.2 ⟨again, sources, found', ?_, rfl⟩⟩
  rw [List.forall₂_iff_zip] at scans ⊢
  refine ⟨scans.1, fun {p source} mem => ?_⟩
  exact scanned_again h takes (scans.2 mem) (avoids again found' p (List.of_mem_zip mem).1).2

/-- A run that is repeated on the files that it left finds the same inputs and changes nothing any
more, unless the tag file is one of its inputs now, or is walked by a path that is too long to be
followed. -/
theorem rerun_changes_nothing (parse : String → Tree) (fs : FileSystem) {o : Options}
    {path : String} {sink : Sink} (h : (run parse fs o sink).result = .ok ())
    (output : o.output = some path) :
    ∃ location content,
      (run parse fs o sink).files.resolve false path = .ok (.present location) ∧
      (run parse fs o sink).files.root.at? location = some (.file content) ∧
      ((∀ inputs, (o.inputs (run parse fs o sink).files.view).result = .ok inputs →
          (run parse fs o sink).files.Avoids inputs location) →
        (run parse (run parse fs o sink).files o sink).result = .ok () ∧
        (o.inputs (run parse fs o sink).files.view).result = (o.inputs fs.view).result ∧
        (run parse (run parse fs o sink).files o sink).files = (run parse fs o sink).files) := by
  obtain ⟨tags, location, gathered, fits, target, replaced⟩ := replaced_of_run h output
  refine ⟨location, tags.fileBytes,
    FileSystem.resolve_existing (replaced.resolve_target target),
    Node.surfaceAt?_eq_file_iff.1 replaced.written, fun avoids => ?_⟩
  obtain ⟨same, gathered'⟩ :=
    gathered_again replaced (FileSystem.takesFile_of_target target) gathered avoids
  rw [run_of_ok gathered', delivered, output]
  simp only [fits.bytes_writeTo, replaced.write target]
  exact ⟨sent_eq_ok_iff.2 fits, same, trivial⟩

theorem result_inputs_of_walk {entries : Entries} {chains : List (List String)}
    (walks : o.recurse = true) (single : o.files = [path])
    (stands : fs.node path = .ok (.directory entries))
    (kept : o.keptChains fs.view path = chains) :
    (o.inputs fs.view).result = .ok (chains.map fun chain => join path (chainText chain)) := by
  rw [Options.inputs, if_pos walks, single, result_expandAll, List.mapM_cons,
    result_expandOne_of_directory stands, kept]
  change Except.ok [_].flatten = _
  rw [List.flatten_singleton]

namespace Sample

def indexing : Options where
  files := ["."]
  output := some "tags"
  recurse := true

theorem resolve_here : files.resolve false "." = .ok (.present []) := by
  have names : steps "." = ["."] := by decide
  refine FileSystem.resolve_eq_ok_iff.2 ⟨⟨by decide, by decide, by decide⟩, ?_⟩
  rw [names]
  exact .stay (.inr rfl) (.arrive _ _)

theorem resolve_below : files.resolve false "./a.go" = .ok (.present ["a.go"]) := by
  have found : files.root.surfaceAt? ([] ++ ["a.go"]) =
      some (.file (Text.Utf8.encode text.toList)) := rfl
  have joined : join "." "a.go" = "./a.go" := by decide
  rw [← joined]
  exact FileSystem.resolve_join resolve_here rfl found (by simp) (by decide)

theorem scanned_below :
    scanned (fun _ => tree) files.view "./a.go" = .ok { file with path := "./a.go" } := by
  have stands : files.node "./a.go" = .ok (.file (Text.Utf8.encode text.toList)) :=
    FileSystem.node_of_resolve resolve_below rfl
  rw [scanned_of_file stands]
  decide +kernel

theorem keptChains_here : indexing.keptChains files.view "." = [["a.go"]] := by
  have stands := FileSystem.node_of_resolve resolve_here rfl
  rw [Options.keptChains, goFiles_eq stands, files, Node.chains, Node.chainsOfEntries,
    Node.chainsOfEntries, Node.chains, List.mergeSort_singleton]
  decide

theorem target_tags : files.target "tags" = .ok ["tags"] :=
  FileSystem.target_of_free (by decide) rfl

theorem result_indexing : (run (fun _ => tree) files indexing).result = .ok () := by
  have inputs := result_inputs_of_walk rfl rfl (FileSystem.node_of_resolve resolve_here rfl)
    keptChains_here
  refine result_run_eq_ok_iff.2 ⟨_, result_gatherTags_eq_ok_iff.2 ⟨_, _, inputs,
    .cons scanned_below .nil, rfl⟩, ?_, TagList.fits_unlimited _⟩
  rintro path ⟨⟩
  exact ⟨_, target_tags⟩

def indexed : FileSystem := (run (fun _ => tree) files indexing).files

theorem replaced_indexed : ∃ content, files.Replaced indexed ["tags"] content := by
  obtain ⟨tags, location, -, -, target, replaced⟩ := replaced_of_run result_indexing rfl
  rw [target_tags] at target
  exact ⟨_, Except.ok.inj target ▸ replaced⟩

theorem result_inputs_indexed : (indexing.inputs indexed.view).result = .ok ["./a.go"] := by
  obtain ⟨content, replaced⟩ := replaced_indexed
  have takes := FileSystem.takesFile_of_target target_tags
  obtain ⟨entries, resolved, found⟩ := replaced.directory takes resolve_here rfl
  have stands := FileSystem.node_of_resolve resolved found
  have kept : indexing.keptChains indexed.view "." = [["a.go"]] := by
    refine Node.chains_ext (pairwise_keptChains stands) (List.pairwise_singleton _ _) ?_
    intro chain
    rw [← keptChains_here, mem_keptChains_iff_surfaceAt? resolved found,
      mem_keptChains_iff_surfaceAt? resolve_here rfl]
    by_cases tagFile : chain = ["tags"]
    · subst tagFile
      exact iff_of_false (fun h => absurd h.2.1 (by decide)) (fun h => absurd h.2.1 (by decide))
    · rw [List.nil_append, replaced.kept chain tagFile]
  exact result_inputs_of_walk rfl rfl stands kept

end Sample

theorem rerun_changes_nothing_sample :
    (run (fun _ => Sample.tree) Sample.files Sample.indexing).result = .ok () ∧
    Sample.indexed.resolve false "tags" = .ok (.present ["tags"]) ∧
    (run (fun _ => Sample.tree) Sample.indexed Sample.indexing).result = .ok () ∧
    (Sample.indexing.inputs Sample.indexed.view).result = .ok ["./a.go"] ∧
    (run (fun _ => Sample.tree) Sample.indexed Sample.indexing).files = Sample.indexed := by
  obtain ⟨content, replaced⟩ := Sample.replaced_indexed
  have takes := FileSystem.takesFile_of_target Sample.target_tags
  have tags := FileSystem.resolve_existing (replaced.resolve_target Sample.target_tags)
  have input := replaced.resolve takes Sample.resolve_below nofun
  obtain ⟨location, _, resolved, -, unchanged⟩ :=
    rerun_changes_nothing _ _ Sample.result_indexing rfl
  obtain ⟨⟩ := tags.symm.trans resolved
  have again := Sample.result_inputs_indexed
  obtain ⟨succeeds, -, left⟩ := unchanged fun inputs found => by
    obtain ⟨⟩ := again.symm.trans found
    intro p mem
    obtain rfl := List.mem_singleton.1 mem
    exact ⟨by decide, fun there => absurd (input.symm.trans there) (by decide)⟩
  exact ⟨Sample.result_indexing, tags, succeeds, again, left⟩

namespace Sample

def slashed : Nat → String
  | 0 => "."
  | n + 1 => slashed n ++ "/"

theorem utf8ByteSize_slashed (n : Nat) : (slashed n).utf8ByteSize = n + 1 := by
  induction n with
  | zero => rfl
  | succ n ih =>
    rw [slashed, String.utf8ByteSize_append, ih]
    rfl

theorem toList_slashed (n : Nat) : (slashed n).toList = '.' :: List.replicate n '/' := by
  induction n with
  | zero => rfl
  | succ n ih =>
    rw [slashed, String.toList_append, ih, List.replicate_succ']
    rfl

theorem pieces_slashed (n : Nat) : pieces (slashed n) = "." :: List.replicate n "" := by
  induction n with
  | zero => decide
  | succ n ih =>
    have slash : slashed n ++ "/" = slashed n ++ "/" ++ "" := String.append_empty.symm
    rw [slashed, slash, pieces_append_slash, ih, List.replicate_succ']
    simp [pieces]

theorem steps_slashed (n : Nat) : steps (slashed (n + 1)) = [".", ""] := by
  have names : (pieces (slashed (n + 1))).filter (· ≠ "") = ["."] := by
    simp [pieces_slashed]
  have last : (pieces (slashed (n + 1))).getLast? = some "" := by
    rw [pieces_slashed, List.replicate_succ', ← List.cons_append, List.getLast?_concat]
  rw [steps_eq, names, last]
  rfl

theorem resolve_slashed {fs : FileSystem} {n : Nat} (short : n + 2 ≤ pathLimit) :
    fs.resolve false (slashed (n + 1)) = .ok (.present fs.workingDirectory) := by
  have relative : isAbsolute (slashed (n + 1)) = false := by simp [isAbsolute, toList_slashed]
  refine FileSystem.resolve_eq_ok_iff.2 ⟨⟨?_, ?_, ?_⟩, ?_⟩
  · simp [toList_slashed]
  · rw [← String.toList_eq_nil_iff.ne, toList_slashed]
    simp
  · rwa [utf8ByteSize_slashed]
  · rw [steps_slashed, relative]
    exact .stay (.inr rfl) (.stay (.inl rfl) (.arrive _ _))

theorem long_join {n : Nat} (long : pathLimit < n + 5) :
    pathLimit < (join (slashed n) "x.go").utf8ByteSize := by
  have name : "x.go".utf8ByteSize = 4 := by decide
  unfold join
  split <;> simp only [String.utf8ByteSize_append, utf8ByteSize_slashed, name] <;> omega

/-- The tag file goes to the directory that is walked, under the name of a source. -/
def within (path : String) : Options where
  files := [path]
  output := some "x.go"
  recurse := true

theorem target_within : FileSystem.empty.target "x.go" = .ok ["work", "x.go"] :=
  FileSystem.target_of_free (by decide) rfl

theorem result_within {path : String}
    (resolved : FileSystem.empty.resolve false path = .ok (.present ["work"])) :
    (run (fun _ => tree) .empty (within path)).result = .ok () := by
  have stands : FileSystem.empty.node path = .ok (.directory []) :=
    FileSystem.node_of_resolve resolved rfl
  have nothing : (within path).keptChains FileSystem.empty.view path = [] := by
    rw [Options.keptChains, goFiles_eq stands, Node.chains, Node.chainsOfEntries,
      List.mergeSort_nil]
    rfl
  refine result_run_eq_ok_iff.2 ⟨_, result_gatherTags_eq_ok_iff.2 ⟨[], [], ?_, .nil, rfl⟩, ?_,
    TagList.fits_unlimited _⟩
  · exact result_inputs_of_walk rfl rfl stands nothing
  · rintro path ⟨⟩
    exact ⟨_, target_within⟩

def leftWithin (path : String) : FileSystem := (run (fun _ => tree) .empty (within path)).files

section

variable {path : String}
  (resolved : FileSystem.empty.resolve false path = .ok (.present ["work"]))

include resolved

theorem replaced_within :
    ∃ content, FileSystem.empty.Replaced (leftWithin path) ["work", "x.go"] content := by
  obtain ⟨tags, location, -, -, target, replaced⟩ := replaced_of_run (result_within resolved) rfl
  obtain ⟨⟩ := target_within.symm.trans target
  exact ⟨_, replaced⟩

theorem result_inputs_again :
    ((within path).inputs (leftWithin path).view).result = .ok [join path "x.go"] := by
  obtain ⟨content, replaced⟩ := replaced_within resolved
  have takes := FileSystem.takesFile_of_target target_within
  obtain ⟨entries, resolved', found⟩ := replaced.directory takes resolved rfl
  have stands := FileSystem.node_of_resolve resolved' found
  have kept : (within path).keptChains (leftWithin path).view path = [["x.go"]] := by
    refine Node.chains_ext (pairwise_keptChains stands) (List.pairwise_singleton _ _) ?_
    intro chain
    rw [mem_keptChains_iff_surfaceAt? resolved' found, List.mem_singleton]
    constructor
    · rintro ⟨⟨old, stood⟩, -⟩
      by_contra other
      rw [replaced.kept _ (by simpa using other)] at stood
      cases chain <;> cases stood
    · rintro rfl
      exact ⟨⟨_, replaced.written⟩, by decide, rfl⟩
  exact result_inputs_of_walk rfl rfl stands kept

theorem result_again (long : pathLimit < (join path "x.go").utf8ByteSize) :
    (run (fun _ => tree) (leftWithin path) (within path)).result ≠ .ok () := by
  intro succeeds
  obtain ⟨_, gathered, -⟩ := result_run_eq_ok_iff.1 succeeds
  obtain ⟨inputs, sources, found, scans, -⟩ := result_gatherTags_eq_ok_iff.1 gathered
  obtain ⟨⟩ := (result_inputs_again resolved).symm.trans found
  obtain ⟨source, _, scan, -⟩ := List.forall₂_cons_left_iff.1 scans
  obtain ⟨content, stands⟩ := file_of_scanned scan
  obtain ⟨place, leads, -⟩ := FileSystem.exists_location stands
  exact Nat.not_le.2 long (FileSystem.resolve_eq_ok_iff.1 leads).1.short

end

end Sample

theorem rerun_fails_at_long_path :
    (run (fun _ => Sample.tree) .empty (Sample.within (Sample.slashed 4092))).result = .ok () ∧
    (Sample.leftWithin (Sample.slashed 4092)).resolve false "x.go" =
      .ok (.present ["work", "x.go"]) ∧
    (∃ inputs, ((Sample.within (Sample.slashed 4092)).inputs
        (Sample.leftWithin (Sample.slashed 4092)).view).result = .ok inputs ∧
      ∀ p ∈ inputs, (Sample.leftWithin (Sample.slashed 4092)).resolve false p ≠
        .ok (.present ["work", "x.go"])) ∧
    (run (fun _ => Sample.tree) (Sample.leftWithin (Sample.slashed 4092))
      (Sample.within (Sample.slashed 4092))).result ≠ .ok () := by
  have resolved : FileSystem.empty.resolve false (Sample.slashed 4092) = .ok (.present ["work"]) :=
    Sample.resolve_slashed (by decide)
  have long := Sample.long_join (n := 4092) (by decide)
  generalize Sample.slashed 4092 = path at resolved long ⊢
  obtain ⟨content, replaced⟩ := Sample.replaced_within resolved
  refine ⟨Sample.result_within resolved,
    FileSystem.resolve_existing (replaced.resolve_target Sample.target_within),
    ⟨_, Sample.result_inputs_again resolved, fun p mem leads => ?_⟩,
    Sample.result_again resolved long⟩
  obtain rfl := List.mem_singleton.1 mem
  exact Nat.not_le.2 long (FileSystem.resolve_eq_ok_iff.1 leads).1.short

end TagIndex
