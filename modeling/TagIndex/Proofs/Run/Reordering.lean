import TagIndex.Proofs.Run.AllOrNothing
import TagIndex.Proofs.Run.TagFile

/-! The order of the arguments and of the excluded prefixes. It decides which error is reported
first, and nothing else: not whether a run gets as far as writing, and not what it writes. -/

namespace TagIndex
open Files Text

structure Options.Reorders (o o' : Options) : Prop where
  exclude : o.exclude.Perm o'.exclude
  files : o.files.Perm o'.files
  output : o'.output = o.output
  recurse : o'.recurse = o.recurse

inductive Options.MayReport (parse : String → Tree) (files : View) (o : Options) : Error → Prop
  | argument {path : String} {cause : SystemError} (walks : o.recurse = true)
      (given : path ∈ o.files) (refused : files.info path = .error cause) :
      MayReport parse files o (.readFailed path cause)
  | input {inputs : List String} {path : String} {e : Error}
      (found : (o.inputs files).result = .ok inputs) (listed : path ∈ inputs)
      (fails : scanned parse files path = .error e) : MayReport parse files o e

variable {parse : String → Tree} {files : View} {o o' : Options}

theorem TagList.sorted_congr {l l' : TagList} (perm : l.lines.Perm l'.lines) :
    l.sorted = l'.sorted := by
  have same : l.sorted.Perm l'.sorted := l.sorted_perm.trans (perm.trans l'.sorted_perm.symm)
  refine same.eq_of_pairwise ?_ l.pairwise_sorted l'.pairwise_sorted
  intro a b _ _ le ge
  exact String.toList_injective (Utf8.encode_injective (List.le_antisymm le ge))

theorem TagList.writeTo_congr {l l' : TagList} (perm : l.lines.Perm l'.lines) (sink : Sink) :
    l.writeTo sink = l'.writeTo sink := by
  rw [writeTo, writeTo, pieces, pieces, fileLines, fileLines, sorted_congr perm]

theorem TagList.fileBytes_congr {l l' : TagList} (perm : l.lines.Perm l'.lines) :
    l.fileBytes = l'.fileBytes := by
  rw [fileBytes, writeTo_congr perm, fileBytes]

namespace Options.Reorders

theorem symm (h : o.Reorders o') : o'.Reorders o :=
  ⟨h.exclude.symm, h.files.symm, h.output.symm, h.recurse.symm⟩

theorem shouldScan (h : o.Reorders o') (relative : String) :
    o'.shouldScan relative = o.shouldScan relative := by
  rw [Options.shouldScan, Options.shouldScan, h.exclude.any_eq]

theorem expandOne (h : o.Reorders o') (files : View) (path : String) :
    o'.expandOne files path = o.expandOne files path := by
  simp only [Options.expandOne, collect_congr h.shouldScan]

theorem inputs (h : o.Reorders o') {inputs : List String}
    (found : (o.inputs files).result = .ok inputs) :
    ∃ inputs', (o'.inputs files).result = .ok inputs' ∧ inputs.Perm inputs' := by
  rw [Options.inputs, h.recurse]
  by_cases walks : o.recurse = true
  · obtain ⟨parts, each, rfl⟩ := exists_parts walks found
    obtain ⟨parts', each', perm⟩ := mapM_perm h.files (mapM_eq_ok_iff.2 each)
    refine ⟨parts'.flatten, ?_, perm.flatten⟩
    rw [if_pos walks, result_expandAll, map_eq_ok_iff]
    exact ⟨parts', by simpa only [h.expandOne] using each', rfl⟩
  · rw [Options.inputs, if_neg walks] at found
    obtain rfl := Except.ok.inj found
    rw [if_neg walks]
    exact ⟨o'.files, rfl, h.files⟩

theorem gatherTags (h : o.Reorders o') {tags : TagList}
    (gathered : (gatherTags parse files o).result = .ok tags) :
    ∃ tags', (TagIndex.gatherTags parse files o').result = .ok tags' ∧
      tags.lines.Perm tags'.lines := by
  obtain ⟨inputs, sources, found, scans, rfl⟩ := result_gatherTags_eq_ok_iff.1 gathered
  obtain ⟨inputs', found', perm⟩ := h.inputs found
  obtain ⟨sources', scans', perm⟩ := mapM_perm perm (mapM_eq_ok_iff.2 scans)
  refine ⟨⟨recordsOf sources'⟩, ?_, perm.flatMap_right _⟩
  exact result_gatherTags_eq_ok_iff.2 ⟨inputs', sources', found', mapM_eq_ok_iff.1 scans', rfl⟩

theorem mayReport (h : o.Reorders o') {e : Error} (reported : o.MayReport parse files e) :
    o'.MayReport parse files e := by
  cases reported with
  | argument walks given refused =>
    exact .argument (h.recurse.trans walks) (h.files.mem_iff.1 given) refused
  | input found listed fails =>
    obtain ⟨inputs', found', perm⟩ := h.inputs found
    exact .input found' (perm.mem_iff.1 listed) fails

end Options.Reorders

theorem mayReport_of_gathered {e : Error} (failed : (gatherTags parse files o).result = .error e) :
    o.MayReport parse files e := by
  rw [result_gatherTags] at failed
  obtain nowhere | ⟨inputs, found, failed⟩ := bind_eq_error_iff.1 failed
  · obtain ⟨walks, before, path, after, cause, split, first, rfl⟩ :=
      result_inputs_eq_error_iff.1 nowhere
    exact .argument walks (by simp [split]) first.fails
  · obtain failed | ⟨_, _, done⟩ := bind_eq_error_iff.1 failed
    · obtain ⟨before, path, after, rfl, first⟩ := mapM_eq_error_iff.1 failed
      exact .input found (by simp) first.fails
    · cases done

/-- Runs on the same arguments and excluded prefixes in two orders either both stop before anything
is written, each at an error that the other might have met first, or both get as far as writing,
and then they write the same bytes to the same place and end alike. -/
theorem run_independent_of_order (parse : String → Tree) (fs : FileSystem) {o o' : Options}
    (sink : Sink) (h : o.Reorders o') :
    (∃ e e', (gatherTags parse fs.view o).result = .error e ∧
      (gatherTags parse fs.view o').result = .error e' ∧
      (run parse fs o sink).Untouched fs e ∧ (run parse fs o' sink).Untouched fs e' ∧
      o.MayReport parse fs.view e' ∧ o'.MayReport parse fs.view e) ∨
    ∃ tags tags', (gatherTags parse fs.view o).result = .ok tags ∧
      (gatherTags parse fs.view o').result = .ok tags' ∧ tags.fileBytes = tags'.fileBytes ∧
      (run parse fs o sink).Agrees (run parse fs o' sink) := by
  cases gathered : (gatherTags parse fs.view o).result with
  | ok tags =>
    obtain ⟨tags', gathered', perm⟩ := h.gatherTags gathered
    refine .inr ⟨tags, tags', rfl, gathered', TagList.fileBytes_congr perm, ?_⟩
    rw [run_of_ok gathered, run_of_ok gathered']
    exact agrees_delivered h.output (TagList.writeTo_congr perm sink)
  | error e =>
    cases gathered' : (gatherTags parse fs.view o').result with
    | ok tags' =>
      obtain ⟨tags, again, -⟩ := h.symm.gatherTags gathered'
      rw [gathered] at again
      cases again
    | error e' =>
      exact .inl ⟨e, e', rfl, rfl, run_untouched gathered, run_untouched gathered',
        h.symm.mayReport (mayReport_of_gathered gathered'),
        h.mayReport (mayReport_of_gathered gathered)⟩

/-- A directory and a file in it, which is given twice and overwritten. -/
def Sample.shuffled : Options where
  exclude := ["b", "v/"]
  files := [".", "a.go", "a.go"]
  output := some "a.go"
  recurse := true

def Sample.reshuffled : Options where
  exclude := ["v/", "b"]
  files := ["a.go", ".", "a.go"]
  output := some "a.go"
  recurse := true

theorem run_independent_of_order_shuffled : Sample.shuffled.Reorders Sample.reshuffled ∧
    ((∃ e e', (gatherTags Sample.alwaysTree Sample.files.view Sample.shuffled).result = .error e ∧
      (gatherTags Sample.alwaysTree Sample.files.view Sample.reshuffled).result = .error e' ∧
      (run Sample.alwaysTree Sample.files Sample.shuffled).Untouched Sample.files e ∧
      (run Sample.alwaysTree Sample.files Sample.reshuffled).Untouched Sample.files e' ∧
      Sample.shuffled.MayReport Sample.alwaysTree Sample.files.view e' ∧
      Sample.reshuffled.MayReport Sample.alwaysTree Sample.files.view e) ∨
    ∃ tags tags',
      (gatherTags Sample.alwaysTree Sample.files.view Sample.shuffled).result = .ok tags ∧
      (gatherTags Sample.alwaysTree Sample.files.view Sample.reshuffled).result = .ok tags' ∧
      tags.fileBytes = tags'.fileBytes ∧
      (run Sample.alwaysTree Sample.files Sample.shuffled).Agrees
        (run Sample.alwaysTree Sample.files Sample.reshuffled)) := by
  have reorders : Sample.shuffled.Reorders Sample.reshuffled := ⟨by decide, by decide, rfl, rfl⟩
  exact ⟨reorders, run_independent_of_order _ _ _ reorders⟩

end TagIndex
