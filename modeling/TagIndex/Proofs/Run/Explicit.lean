import TagIndex.Proofs.Files.Below
import TagIndex.Proofs.Run.Expansion
import TagIndex.Proofs.Source.Acceptance

/-! A run that walks directories, beside a run that is given the files of the walk by their paths.
The walk tells files from links by the entries of directories, reading a path follows the links on
it; both find the same files. -/

namespace TagIndex
open Files Text

/-- The same run on these inputs, just as they are. -/
def Options.explicit (o : Options) (inputs : List String) : Options :=
  { o with files := inputs, recurse := false }

variable {parse : String → Tree} {fs : FileSystem} {o : Options} {path : String}
  {inputs : List String} {sink : Sink}

theorem Options.Expands.exists_file (h : o.Expands fs path inputs)
    (short : ∀ p ∈ inputs, p.utf8ByteSize ≤ pathLimit) :
    ∀ p ∈ inputs, ∃ content, fs.node p = .ok (.file content) := by
  cases h with
  | itself stands other =>
    intro p mem
    obtain rfl := List.mem_singleton.1 mem
    obtain ⟨content, rfl⟩ | ⟨entries, rfl⟩ := FileSystem.file_or_directory stands
    · exact ⟨content, stands⟩
    · exact absurd rfl (other entries)
  | walked stands _ complete =>
    intro p mem
    obtain ⟨chain, listed, rfl⟩ := List.mem_map.1 mem
    obtain ⟨location, resolved, found⟩ := FileSystem.exists_location stands
    have selected := (complete chain).1 listed
    have joined := selected.joinAll_eq (sound_of_node stands) path
    rw [← joined]
    exact FileSystem.exists_file_joinAll selected.reaches resolved found (joined ▸ short _ mem)

theorem exists_file_of_mem_inputs (walks : o.recurse = true)
    (found : (o.inputs fs.view).result = .ok inputs)
    (short : ∀ p ∈ inputs, p.utf8ByteSize ≤ pathLimit) :
    ∀ p ∈ inputs, ∃ content, fs.node p = .ok (.file content) := by
  obtain ⟨parts, each, rfl⟩ := exists_parts walks found
  intro p mem
  obtain ⟨part, listed, mem⟩ := List.mem_flatten.1 mem
  obtain ⟨path, -, expanded⟩ := exists_mem_of_forall₂ each listed
  have short : ∀ q ∈ part, q.utf8ByteSize ≤ pathLimit :=
    fun q here => short q (List.mem_flatten.2 ⟨part, listed, here⟩)
  exact (expands_of_result expanded).exists_file short p mem

theorem result_inputs_of_files
    (files : ∀ p ∈ o.files, ∃ content, fs.node p = .ok (.file content)) :
    (o.inputs fs.view).result = .ok o.files := by
  unfold Options.inputs
  split
  · have each : ∀ p ∈ o.files, (o.expandOne fs.view p).result = pure [p] := by
      intro p mem
      obtain ⟨content, stands⟩ := files p mem
      exact result_expandOne_of_other stands (by simp)
    rw [result_expandAll, mapM_eq_pure_map each]
    change Except.ok _ = _
    simp [← List.flatMap_def]
  · rfl

theorem scanned_of_file {content : List UInt8} (h : fs.node path = .ok (.file content)) :
    scanned parse fs.view path =
      (SourceFile.read parse path content).mapError (.parseFailed path) := by
  have read : fs.view.read path = .ok content := by
    change fs.read path = _
    rw [FileSystem.read, h]
    rfl
  exact scanned_eq (map_eq_ok_iff.2 ⟨_, h, rfl⟩) read

theorem file_of_scanned {source : SourceFile} (h : scanned parse fs.view path = .ok source) :
    ∃ content, fs.node path = .ok (.file content) := by
  simp only [scanned, scanFile, Attempt.result_bind, Attempt.result_ofExcept, Attempt.result_note,
    bind_eq_ok_iff] at h
  obtain ⟨-, -, -, -, bytes, read, -⟩ := h
  change (fs.read path).mapError _ = _ at read
  cases stands : fs.node path with
  | error cause => simp [FileSystem.read, stands, bind, Except.bind, Except.mapError] at read
  | ok n =>
    obtain file | ⟨entries, rfl⟩ := FileSystem.file_or_directory stands
    · exact file.imp fun _ same => congrArg _ same
    · simp [FileSystem.read, stands, bind, Except.bind, Except.mapError] at read

theorem gatherTags_eq_explicit {files : View} (found : (o.inputs files).result = .ok inputs) :
    gatherTags parse files o =
      ⟨(o.inputs files).log ++ (gatherTags parse files (o.explicit inputs)).log,
        (gatherTags parse files (o.explicit inputs)).result⟩ := by
  have verbatim : ((o.explicit inputs).inputs files).result = .ok inputs := rfl
  rw [gatherTags, gatherTags, Attempt.bind_of_ok found, Attempt.bind_of_ok verbatim]
  rfl

theorem log_run : (run parse fs o sink).log = (gatherTags parse fs.view o).log := by
  cases gathered : (gatherTags parse fs.view o).result with
  | error e => rw [run_of_error gathered]
  | ok tags => rw [run_of_ok gathered, log_delivered]

theorem agrees_explicit (found : (o.inputs fs.view).result = .ok inputs) :
    (run parse fs o sink).Agrees (run parse fs (o.explicit inputs) sink) := by
  have same : (gatherTags parse fs.view o).result =
      (gatherTags parse fs.view (o.explicit inputs)).result := by
    rw [gatherTags_eq_explicit found]
  cases gathered : (gatherTags parse fs.view (o.explicit inputs)).result with
  | error e =>
    rw [run_of_error gathered, run_of_error (same.trans gathered)]
    exact ⟨rfl, rfl, rfl⟩
  | ok tags =>
    rw [run_of_ok gathered, run_of_ok (same.trans gathered)]
    exact agrees_delivered rfl rfl

theorem parseFailed_of_gathered {e : Error} (found : (o.inputs fs.view).result = .ok inputs)
    (files : ∀ p ∈ inputs, ∃ content, fs.node p = .ok (.file content))
    (failed : (gatherTags parse fs.view o).result = .error e) :
    ∃ p ∈ inputs, ∃ d, e = .parseFailed p d := by
  rw [result_gatherTags, found] at failed
  obtain nowhere | ⟨_, ⟨⟩, failed⟩ := bind_eq_error_iff.1 failed
  · cases nowhere
  obtain failed | ⟨_, _, done⟩ := bind_eq_error_iff.1 failed
  · obtain ⟨before, p, after, rfl, first⟩ := mapM_eq_error_iff.1 failed
    have mem : p ∈ before ++ p :: after := by simp
    obtain ⟨content, stands⟩ := files p mem
    have fails := first.fails
    rw [scanned_of_file stands] at fails
    cases read : SourceFile.read parse p content with
    | error d =>
      rw [read] at fails
      exact ⟨p, mem, d, (Except.error.inj fails).symm⟩
    | ok file =>
      rw [read] at fails
      cases fails
  · cases done

/-- Once its inputs are found, a run that walks directories is the run on these inputs as they are,
but for what it logged while it walked. The inputs are files and stand for themselves, whatever is
excluded, so no input is refused by the system. -/
theorem recursive_run_is_explicit (parse : String → Tree) (fs : FileSystem) {o : Options}
    {inputs : List String} (sink : Sink) (walks : o.recurse = true)
    (found : (o.inputs fs.view).result = .ok inputs)
    (short : ∀ p ∈ inputs, p.utf8ByteSize ≤ pathLimit) :
    (∀ p ∈ inputs, ∃ content, fs.node p = .ok (.file content)) ∧
    (∀ exclude, (Options.inputs { o with files := inputs, exclude } fs.view).result = .ok inputs) ∧
    (run parse fs o sink).Agrees (run parse fs (o.explicit inputs) sink) ∧
    (run parse fs o sink).log =
      (o.inputs fs.view).log ++ (run parse fs (o.explicit inputs) sink).log ∧
    ∀ p cause, (run parse fs o sink).result ≠ .error (.readFailed p cause) := by
  have files := exists_file_of_mem_inputs walks found short
  refine ⟨files, fun exclude => result_inputs_of_files files, agrees_explicit found, ?_, ?_⟩
  · rw [log_run, log_run, gatherTags_eq_explicit found]
  · intro p cause failed
    cases gathered : (gatherTags parse fs.view o).result with
    | error e =>
      rw [run_of_error gathered] at failed
      obtain ⟨_, -, _, parseFailed⟩ := parseFailed_of_gathered found files gathered
      rw [parseFailed] at failed
      cases failed
    | ok tags =>
      rw [run_of_ok gathered] at failed
      obtain ⟨_, _, -, -, writeFailed⟩ | ⟨-, -, full⟩ := error_of_delivered failed
      · cases writeFailed
      · cases full

namespace Sample

def walking : Options where
  files := ["l/."]
  recurse := true

theorem node_linked :
    linked.node "l/." = .ok (.directory [("a.go", .file (Utf8.encode text.toList))]) :=
  FileSystem.node_of_resolve resolve_link rfl

theorem result_walking : (walking.inputs linked.view).result = .ok ["l/./a.go"] := by
  have chains : walking.keptChains linked.view "l/." = [["a.go"]] := by
    rw [Options.keptChains, goFiles_eq node_linked, Node.chains, Node.chainsOfEntries,
      Node.chainsOfEntries, Node.chains, List.mergeSort_singleton]
    decide
  have expanded : (walking.expandOne linked.view "l/.").result = .ok ["l/./a.go"] := by
    rw [result_expandOne_of_directory node_linked, chains]
    decide
  change (walking.expandAll linked.view ["l/."]).result = _
  rw [result_expandAll, List.mapM_cons, expanded]
  rfl

end Sample

theorem recursive_run_is_explicit_linked :
    (Sample.walking.inputs Sample.linked.view).result = .ok ["l/./a.go"] ∧
    (∀ p ∈ ["l/./a.go"], ∃ content, Sample.linked.node p = .ok (.file content)) ∧
    (∀ exclude, (Options.inputs { Sample.walking with files := ["l/./a.go"], exclude }
      Sample.linked.view).result = .ok ["l/./a.go"]) ∧
    (run Sample.alwaysTree Sample.linked Sample.walking).Agrees
      (run Sample.alwaysTree Sample.linked (Sample.walking.explicit ["l/./a.go"])) ∧
    (run Sample.alwaysTree Sample.linked Sample.walking).log =
      (Sample.walking.inputs Sample.linked.view).log ++
        (run Sample.alwaysTree Sample.linked (Sample.walking.explicit ["l/./a.go"])).log ∧
    ∀ p cause,
      (run Sample.alwaysTree Sample.linked Sample.walking).result ≠ .error (.readFailed p cause) :=
  ⟨Sample.result_walking,
    recursive_run_is_explicit _ _ _ rfl Sample.result_walking (by decide)⟩

end TagIndex
