import TagIndex.Proofs.Files.Below
import TagIndex.Proofs.Run.Expansion
import TagIndex.Proofs.Source.Acceptance

/-! Excluded prefixes. They act on the paths of walked files below the directory that was walked,
which do not depend on the path that the directory was given by. -/

namespace TagIndex
open Files

inductive Found where
  | given (path : String)
  | walked (directory relative : String)

namespace Found

def path : Found → String
  | given path => path
  | walked directory relative => join directory relative

def startsWith (starts : List String) : Found → Bool
  | given _ => false
  | walked _ relative => starts.any fun p => p.toList.isPrefixOf relative.toList

end Found

/-- The paths that are compared with the excluded prefixes when a directory is walked. -/
def matchedPaths (files : View) (path : String) : List String :=
  (walkedFiles files path).map (relativePath path)

def Options.keptPaths (o : Options) (files : View) (path : String) : List String :=
  (matchedPaths files path).filter o.shouldScan

/-- What an argument contributes to the inputs. -/
def Options.foundAt (o : Options) (fs : FileSystem) (path : String) : List Found :=
  match fs.node path with
  | .ok (.directory _) => (o.keptPaths fs.view path).map (.walked path)
  | _ => [.given path]

def Options.found (o : Options) (fs : FileSystem) : List Found :=
  if o.recurse then o.files.flatMap (o.foundAt fs) else o.files.map .given

def Options.excluding (o : Options) (more : List String) : Options :=
  { o with exclude := o.exclude ++ more }

variable {fs : FileSystem} {o : Options} {path : String}

theorem matchedPaths_eq {n : Node} (h : fs.node path = .ok n) :
    matchedPaths fs.view path = (goFiles fs.view path).map chainText := by
  rw [matchedPaths, walkedFiles, List.map_map]
  exact List.map_congr_left fun chain mem => relativePath_of_mem_goFiles h mem

theorem keptPaths_eq {n : Node} (h : fs.node path = .ok n) :
    o.keptPaths fs.view path = (o.keptChains fs.view path).map chainText := by
  rw [Options.keptPaths, matchedPaths_eq h, List.filter_map]
  rfl

theorem matchedPaths_congr {other : String} {n : Node} (h : fs.node path = .ok n)
    (h' : fs.node other = .ok n) : matchedPaths fs.view path = matchedPaths fs.view other := by
  rw [matchedPaths_eq h, matchedPaths_eq h', goFiles_eq h, goFiles_eq h']

theorem stripPrefix?_of_mem_walkedFiles {n : Node} (h : fs.node path = .ok n) {file : String}
    (mem : file ∈ walkedFiles fs.view path) :
    stripPrefix? file path = some (relativePath path file) := by
  obtain ⟨chain, listed, rfl⟩ := List.mem_map.1 mem
  obtain ⟨some_name, named⟩ := named_of_mem_goFiles h listed
  have left := stripPrefix?_joinAll (ne_empty_of_node h) some_name named
  rw [relativePath, left]
  rfl

theorem result_expandOne_eq_found {n : Node} (h : fs.node path = .ok n) :
    (o.expandOne fs.view path).result = .ok ((o.foundAt fs path).map (·.path)) := by
  cases n with
  | file content | link target =>
    rw [result_expandOne_of_other h (by simp), Options.foundAt, h]
    rfl
  | directory entries =>
    rw [result_expandOne_of_directory h, Options.foundAt, h]
    simp [keptPaths_eq h, Found.path, Function.comp_def]

theorem result_inputs_eq_found (h : o.recurse = true → ∀ p ∈ o.files, ∃ n, fs.node p = .ok n) :
    (o.inputs fs.view).result = .ok ((o.found fs).map (·.path)) := by
  unfold Options.inputs Options.found
  split
  · rename_i walks
    have each : ∀ p ∈ o.files, (o.expandOne fs.view p).result =
        pure ((o.foundAt fs p).map (·.path)) := by
      intro p mem
      obtain ⟨n, stands⟩ := h walks p mem
      exact result_expandOne_eq_found stands
    rw [result_expandAll, mapM_eq_pure_map each, List.map_flatMap, List.flatMap_def]
    rfl
  · simp [Found.path, Function.comp_def]

theorem exists_node_of_inputs {inputs : List String} (walks : o.recurse = true)
    (h : (o.inputs fs.view).result = .ok inputs) : ∀ p ∈ o.files, ∃ n, fs.node p = .ok n := by
  obtain ⟨parts, each, -⟩ := exists_parts walks h
  intro p mem
  obtain ⟨part, expanded⟩ := exists_mapM_eq_ok_iff.1 ⟨parts, mapM_eq_ok_iff.2 each⟩ p mem
  exact exists_node_of_result expanded

theorem shouldScan_excluding (more : List String) (relative : String) :
    (o.excluding more).shouldScan relative =
      (o.shouldScan relative && !more.any fun p => p.toList.isPrefixOf relative.toList) := by
  rw [Options.shouldScan, Options.excluding, List.any_append, Bool.not_or]
  rfl

theorem foundAt_excluding (more : List String) :
    (o.excluding more).foundAt fs path = (o.foundAt fs path).filter (!·.startsWith more) := by
  unfold Options.foundAt
  split
  · rw [List.filter_map, Options.keptPaths, Options.keptPaths, List.filter_filter]
    refine congrArg _ (List.filter_congr fun relative _ => ?_)
    rw [shouldScan_excluding, Bool.and_comm]
    rfl
  · rfl

theorem found_excluding (more : List String) :
    (o.excluding more).found fs = (o.found fs).filter (!·.startsWith more) := by
  have recurse : (o.excluding more).recurse = o.recurse := rfl
  unfold Options.found
  rw [recurse]
  split
  · rw [List.filter_flatMap]
    exact List.flatMap_congr fun p _ => foundAt_excluding more
  · refine (List.filter_eq_self.2 fun f mem => ?_).symm
    obtain ⟨p, -, rfl⟩ := List.mem_map.1 mem
    rfl

/-- Excluding more prefixes takes away the walked files whose paths below the walked directories
start with them, and nothing else: arguments that lead to files stay whatever their names are, and
arguments that lead nowhere are refused as before. What is compared with the prefixes, and what is
kept, is the same under any two paths of a directory, since what a walk joins to a path can be taken
off again. -/
theorem exclusion_filters_walked_files (fs : FileSystem) (o : Options) (more : List String) :
    (∀ e, ((o.excluding more).inputs fs.view).result = .error e ↔
      (o.inputs fs.view).result = .error e) ∧
    (∀ inputs, (o.inputs fs.view).result = .ok inputs →
      inputs = (o.found fs).map (·.path) ∧
      ((o.excluding more).inputs fs.view).result =
        .ok (((o.found fs).filter (!·.startsWith more)).map (·.path))) ∧
    ∀ path other location, fs.resolve false path = .ok (.present location) →
      fs.resolve false other = .ok (.present location) →
      fs.root.surfaceAt? location = some .directory →
      (∀ file ∈ walkedFiles fs.view path, stripPrefix? file path = some (relativePath path file)) ∧
      matchedPaths fs.view path = matchedPaths fs.view other ∧
      o.keptPaths fs.view path = o.keptPaths fs.view other ∧
      (o.expandOne fs.view path).result = .ok ((o.keptPaths fs.view path).map (join path)) := by
  refine ⟨fun e => ?_, ?_, ?_⟩
  · rw [result_inputs_eq_error_iff, result_inputs_eq_error_iff]
    rfl
  · intro inputs found
    have stands : o.recurse = true → ∀ p ∈ o.files, ∃ n, fs.node p = .ok n :=
      fun walks => exists_node_of_inputs walks found
    have narrowed := result_inputs_eq_found (o := o.excluding more) stands
    rw [result_inputs_eq_found stands] at found
    exact ⟨(Except.ok.inj found).symm, found_excluding more ▸ narrowed⟩
  · intro path other location resolved resolved' surface
    obtain ⟨entries, at_location⟩ := Node.surfaceAt?_eq_directory_iff.1 surface
    have stands := FileSystem.node_of_resolve resolved at_location
    have stands' := FileSystem.node_of_resolve resolved' at_location
    have matched := matchedPaths_congr stands stands'
    refine ⟨fun file => stripPrefix?_of_mem_walkedFiles stands, matched, ?_, ?_⟩
    · rw [Options.keptPaths, matched, Options.keptPaths]
    · rw [result_expandOne_of_directory stands, keptPaths_eq stands, List.map_map]
      rfl

theorem exclusion_filters_walked_files_linked :
    Sample.linked.resolve false "l/." = .ok (.present ["d"]) ∧
    Sample.linked.resolve false "d" = .ok (.present ["d"]) ∧
    matchedPaths Sample.linked.view "l/." = matchedPaths Sample.linked.view "d" := by
  obtain ⟨-, -, alike⟩ := exclusion_filters_walked_files Sample.linked {} []
  obtain ⟨-, matched, -⟩ :=
    alike "l/." "d" ["d"] Sample.resolve_link Sample.resolve_directory rfl
  exact ⟨Sample.resolve_link, Sample.resolve_directory, matched⟩

end TagIndex
