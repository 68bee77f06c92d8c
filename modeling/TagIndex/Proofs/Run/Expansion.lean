import TagIndex.Proofs.Files.Relative
import TagIndex.Proofs.Run.Gathering

/-! What the arguments of a run stand for when directories are walked: a directory stands for the
files below it that have the extension and are not excluded, anything else for itself. -/

namespace TagIndex
open Files

theorem isGoFileName_iff {name : String} :
    isGoFileName name = true ↔ ∃ stem : String, stem ≠ "" ∧ name = stem ++ ".go" := by
  simp only [isGoFileName, Bool.and_eq_true, List.isSuffixOf_iff_suffix, decide_eq_true_eq]
  constructor
  · rintro ⟨⟨stem, split⟩, other⟩
    have whole : name = String.ofList stem ++ ".go" := by
      refine String.toList_injective ?_
      rw [String.toList_append, String.toList_ofList, split]
    refine ⟨String.ofList stem, ?_, whole⟩
    intro empty
    rw [empty] at whole
    exact other (whole.trans (by decide))
  · rintro ⟨stem, nonempty, rfl⟩
    refine ⟨⟨stem.toList, by simp⟩, ?_⟩
    intro same
    have empty : stem.toList = [] := by
      have lengths := congrArg (fun s : String => s.toList.length) same
      simpa using lengths
    exact nonempty (by simpa using empty)

structure Options.Selects (o : Options) (directory : Node) (chain : List String) : Prop where
  reaches : directory.Reaches chain
  extension : ∃ above stem, stem ≠ "" ∧ chain = above ++ [stem ++ ".go"]
  kept : o.shouldScan (chainText chain) = true

inductive Options.Expands (o : Options) (fs : FileSystem) (path : String) : List String → Prop
  | itself {n : Node} (stands : fs.node path = .ok n) (other : ∀ entries, n ≠ .directory entries) :
      Expands o fs path [path]
  | walked {entries : Entries} {chains : List (List String)}
      (stands : fs.node path = .ok (.directory entries))
      (ascending : chains.Pairwise fun a b => Node.chainKey a < Node.chainKey b)
      (complete : ∀ chain, chain ∈ chains ↔ o.Selects (.directory entries) chain) :
      Expands o fs path (chains.map fun chain => join path (chainText chain))

variable {fs : FileSystem} {o : Options} {path : String}

theorem sound_of_node {n : Node} (h : fs.node path = .ok n) : n.Sound := by
  obtain ⟨d, -, found⟩ := bind_eq_ok_iff.1 h
  split at found
  · split at found
    · rename_i at_place
      exact Except.ok.inj found ▸ fs.sound.of_at? at_place
    · cases found
  · cases found

theorem walk_eq {n : Node} (h : fs.node path = .ok n) : fs.view.walk path = n.chains.map .file := by
  rw [← Node.visits_listing]
  change FileSystem.walk fs path = _
  rw [FileSystem.walk, h]

theorem goFiles_eq {n : Node} (h : fs.node path = .ok n) :
    goFiles fs.view path = n.chains.filter fun chain => chain.getLast?.any isGoFileName := by
  have chains : (n.chains.map .file).filterMap Visit.chain? = n.chains := by
    simp [List.filterMap_map, Function.comp_def, Visit.chain?]
  rw [goFiles, walk_eq h, goChains, chains]

def Options.keptChains (o : Options) (files : View) (path : String) : List (List String) :=
  (goFiles files path).filter fun chain => o.shouldScan (chainText chain)

theorem mem_goFiles_iff {n : Node} (h : fs.node path = .ok n) {chain : List String} :
    chain ∈ goFiles fs.view path ↔
      n.Reaches chain ∧ ∃ above stem, stem ≠ "" ∧ chain = above ++ [stem ++ ".go"] := by
  have extension : chain.getLast?.any isGoFileName = true ↔
      ∃ above stem, stem ≠ "" ∧ chain = above ++ [stem ++ ".go"] := by
    simp only [Option.any_eq_true, List.getLast?_eq_some_iff, isGoFileName_iff]
    constructor
    · rintro ⟨name, ⟨above, rfl⟩, stem, nonempty, rfl⟩
      exact ⟨above, stem, nonempty, rfl⟩
    · rintro ⟨above, stem, nonempty, rfl⟩
      exact ⟨_, ⟨above, rfl⟩, stem, nonempty, rfl⟩
  rw [goFiles_eq h, List.mem_filter, Node.mem_chains_iff, extension]

theorem mem_keptChains_iff {n : Node} (h : fs.node path = .ok n) {chain : List String} :
    chain ∈ o.keptChains fs.view path ↔ o.Selects n chain := by
  rw [Options.keptChains, List.mem_filter, mem_goFiles_iff h]
  exact ⟨fun h => ⟨h.1.1, h.1.2, h.2⟩, fun h => ⟨⟨h.reaches, h.extension⟩, h.kept⟩⟩

theorem pairwise_goFiles {n : Node} (h : fs.node path = .ok n) :
    (goFiles fs.view path).Pairwise fun a b => Node.chainKey a < Node.chainKey b := by
  rw [goFiles_eq h]
  exact (Node.pairwise_chains (sound_of_node h)).filter _

theorem pairwise_keptChains {n : Node} (h : fs.node path = .ok n) :
    (o.keptChains fs.view path).Pairwise fun a b => Node.chainKey a < Node.chainKey b :=
  (pairwise_goFiles h).filter _

theorem ne_empty_of_node {n : Node} (h : fs.node path = .ok n) : path ≠ "" := by
  obtain ⟨d, resolved, -⟩ := bind_eq_ok_iff.1 h
  exact (FileSystem.resolve_eq_ok_iff.1 resolved).1.nonempty

theorem named_of_mem_goFiles {n : Node} (h : fs.node path = .ok n) {chain : List String}
    (mem : chain ∈ goFiles fs.view path) : chain ≠ [] ∧ ∀ name ∈ chain, IsName name := by
  rw [goFiles_eq h] at mem
  obtain ⟨below, extension⟩ := List.mem_filter.1 mem
  refine ⟨?_, (Node.mem_chains_iff.1 below).isName (sound_of_node h)⟩
  rintro rfl
  cases extension

theorem relativePath_of_mem_goFiles {n : Node} (h : fs.node path = .ok n) {chain : List String}
    (mem : chain ∈ goFiles fs.view path) :
    relativePath path (joinAll path chain) = chainText chain := by
  obtain ⟨some_name, named⟩ := named_of_mem_goFiles h mem
  exact relativePath_joinAll (ne_empty_of_node h) some_name named

theorem result_walk {n : Node} (h : fs.node path = .ok n) :
    (o.collect path (fs.view.walk path)).result =
      .ok ((o.keptChains fs.view path).map (joinAll path)) := by
  have same : ∀ chain ∈ goFiles fs.view path,
      o.shouldScan (relativePath path (joinAll path chain)) = o.shouldScan (chainText chain) :=
    fun chain mem => by rw [relativePath_of_mem_goFiles h mem]
  rw [result_collect, List.filter_map, Options.keptChains, ← List.filter_congr same]
  rfl

theorem Options.Selects.joinAll_eq {n : Node} {chain : List String} (h : o.Selects n chain)
    (sound : n.Sound) (path : String) : joinAll path chain = join path (chainText chain) := by
  obtain ⟨above, stem, -, split⟩ := h.extension
  exact joinAll_eq_join path (by simp [split]) (h.reaches.isName sound)

theorem result_expandOne_of_directory {entries : Entries}
    (h : fs.node path = .ok (.directory entries)) : (o.expandOne fs.view path).result =
      .ok ((o.keptChains fs.view path).map fun chain => join path (chainText chain)) := by
  have info : fs.view.info path = .ok ⟨true, directorySize⟩ := map_eq_ok_iff.2 ⟨_, h, rfl⟩
  have names : ∀ chain ∈ o.keptChains fs.view path,
      joinAll path chain = join path (chainText chain) :=
    fun chain mem => ((mem_keptChains_iff h).1 mem).joinAll_eq (sound_of_node h) path
  simp only [Options.expandOne, Attempt.result_bind, Attempt.result_ofExcept, info]
  rw [← List.map_congr_left names]
  exact result_walk h

theorem result_expandOne_of_other {n : Node} (h : fs.node path = .ok n)
    (other : ∀ entries, n ≠ .directory entries) :
    (o.expandOne fs.view path).result = .ok [path] := by
  have info : fs.view.info path = .ok n.info := map_eq_ok_iff.2 ⟨_, h, rfl⟩
  simp only [Options.expandOne, Attempt.result_bind, Attempt.result_ofExcept, info]
  cases n with
  | file content | link target => rfl
  | directory entries => exact absurd rfl (other entries)

theorem info_eq_error_iff {cause : SystemError} :
    fs.view.info path = .error cause ↔ fs.node path = .error cause :=
  map_eq_error_iff

theorem info_eq_ok_iff : (∃ info, fs.view.info path = .ok info) ↔ ∃ n, fs.node path = .ok n := by
  cases h : fs.node path with
  | error cause => simp [info_eq_error_iff.2 h]
  | ok n =>
    have found : fs.view.info path = .ok n.info := map_eq_ok_iff.2 ⟨n, h, rfl⟩
    simp [found]

theorem exists_node_of_result {inputs : List String}
    (h : (o.expandOne fs.view path).result = .ok inputs) : ∃ n, fs.node path = .ok n :=
  info_eq_ok_iff.1 (result_expandOne_eq_ok_iff.1 ⟨inputs, h⟩)

theorem expands_of_result {inputs : List String}
    (h : (o.expandOne fs.view path).result = .ok inputs) : o.Expands fs path inputs := by
  obtain ⟨n, stands⟩ := exists_node_of_result h
  cases n with
  | file content | link target =>
    rw [result_expandOne_of_other stands (by simp)] at h
    obtain rfl := Except.ok.inj h
    exact .itself stands (by simp)
  | directory entries =>
    rw [result_expandOne_of_directory stands] at h
    obtain rfl := Except.ok.inj h
    exact .walked stands (pairwise_keptChains stands) fun chain => mem_keptChains_iff stands

/-- If directories are not walked the arguments are the inputs. If they are, an argument that leads
nowhere is an error, and the first such argument is named; without one the inputs are what the
arguments stand for, one after the other. -/
theorem inputs_are_expansions (o : Options) (fs : FileSystem) :
    (o.recurse = false → (o.inputs fs.view).result = .ok o.files) ∧
    (o.recurse = true →
      (∀ e, (o.inputs fs.view).result = .error e ↔
        ∃ before path after cause, o.files = before ++ path :: after ∧
          FirstFailure fs.node before path cause ∧ e = .readFailed path cause) ∧
      ∀ inputs, (o.inputs fs.view).result = .ok inputs →
        ∃ parts, List.Forall₂ (o.Expands fs) o.files parts ∧ inputs = parts.flatten) := by
  refine ⟨fun verbatim => by simp [Options.inputs, verbatim], fun recurse => ⟨fun e => ?_, ?_⟩⟩
  · rw [result_inputs_eq_error_iff]
    have first {before : List String} {path : String} {cause : SystemError} :
        FirstFailure fs.view.info before path cause ↔ FirstFailure fs.node before path cause := by
      constructor
      · rintro ⟨succeeds, fails⟩
        exact ⟨fun p mem => info_eq_ok_iff.1 (succeeds p mem), info_eq_error_iff.1 fails⟩
      · rintro ⟨succeeds, fails⟩
        exact ⟨fun p mem => info_eq_ok_iff.2 (succeeds p mem), info_eq_error_iff.2 fails⟩
    simp only [recurse, true_and, first]
  · intro inputs found
    rw [Options.inputs, if_pos recurse, result_expandAll, map_eq_ok_iff] at found
    obtain ⟨parts, each, rfl⟩ := found
    exact ⟨parts, (mapM_eq_ok_iff.1 each).imp fun _ _ => expands_of_result, rfl⟩

end TagIndex
