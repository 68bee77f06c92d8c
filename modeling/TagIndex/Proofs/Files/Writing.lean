import TagIndex.Files.FileSystem
import TagIndex.Proofs.Data.Traversal

/-! Writing a file changes what one location shows and nothing else, and the path that was written
to leads to the new content. -/

namespace TagIndex.Files.FileSystem

structure Replaced (before after : FileSystem) (location : List String) (content : List UInt8) :
    Prop where
  workingDirectory : after.workingDirectory = before.workingDirectory
  written : after.root.surfaceAt? location = some (.file content)
  kept : ∀ other, other ≠ location →
    after.root.surfaceAt? other = before.root.surfaceAt? other

theorem TakesFile.surfaceAt?_below {fs : FileSystem} {location other : List String}
    (h : fs.TakesFile location) (below : location <+: other) (differ : other ≠ location) :
    fs.root.surfaceAt? other = none := by
  by_contra stands
  obtain ⟨rest, rfl⟩ := below
  exact h.free (Node.surfaceAt?_eq_directory_of_append stands fun empty => differ (by simp [empty]))

theorem TakesFile.replaced {fs : FileSystem} {location : List String} (h : fs.TakesFile location)
    (content : List UInt8) :
    fs.Replaced (fs.put location (.file content) (.file content) h.named h.free) location
      content := by
  obtain ⟨directory, name, rfl, named, above⟩ := h.split
  refine ⟨rfl, ?_, fun other differ => ?_⟩
  · rw [put, Node.surfaceAt?_put_file name content above, if_pos rfl]
  · rw [put, Node.surfaceAt?_put_file name content above, if_neg differ]
    split
    · exact (h.surfaceAt?_below ‹_› differ).symm
    · rfl

theorem write_eq_error_iff {fs : FileSystem} {path : String} {content : List UInt8}
    {cause : SystemError} :
    fs.write path content = .error cause ↔ fs.target path = .error cause := by
  unfold write
  split <;> simp_all

theorem exists_write {fs : FileSystem} {path : String} {location : List String}
    (h : fs.target path = .ok location) (content : List UInt8) :
    ∃ changed, fs.write path content = .ok changed ∧ fs.Replaced changed location content := by
  unfold write
  split
  · rename_i other target
    obtain rfl : other = location := by simpa [h] using target.symm
    exact ⟨_, rfl, (takesFile_of_target target).replaced content⟩
  · simp_all

theorem replaced_of_write {fs changed : FileSystem} {path : String} {content : List UInt8}
    (h : fs.write path content = .ok changed) :
    ∃ location, fs.target path = .ok location ∧ fs.Replaced changed location content := by
  cases target : fs.target path with
  | error cause => simp [write_eq_error_iff.2 target] at h
  | ok location =>
    obtain ⟨_, written, replaced⟩ := exists_write target content
    obtain rfl := Except.ok.inj (written.symm.trans h)
    exact ⟨location, rfl, replaced⟩

theorem resolve_of_target {fs : FileSystem} {path : String} {location : List String}
    (h : fs.target path = .ok location) :
    ∃ d : Destination, fs.resolve true path = .ok d ∧ d.location = location := by
  unfold target at h
  obtain ⟨d, resolved, h⟩ := bind_eq_ok_iff.1 h
  refine ⟨d, resolved, ?_⟩
  cases d with
  | present place =>
    dsimp only at h
    split at h <;> simp_all [Destination.location]
  | vacant directory name => simpa [Destination.location] using h

end FileSystem

structure Node.Persists (root changed : Node) : Prop where
  solid : ∀ {location : List String} {s : Surface}, root.surfaceAt? location = some s →
    (∀ old, s ≠ .file old) → changed.surfaceAt? location = some s
  file : ∀ {location : List String} {old : List UInt8},
    root.surfaceAt? location = some (.file old) →
    ∃ new, changed.surfaceAt? location = some (.file new)

theorem Leads.persists {root changed : Node} {creating : Bool} {links : Nat}
    {here names : List String} {d : Destination} (h : Leads root creating links here names d)
    (persists : root.Persists changed) (made : root.surfaceAt? d.location = none →
      ∃ new, changed.surfaceAt? d.location = some (.file new)) :
    Leads changed creating links here names (.present d.location) := by
  induction h with
  | arrive links here => exact .arrive links here
  | stay stays _ ih => exact .stay stays (ih made)
  | up _ ih => exact .up (ih made)
  | new up found =>
    obtain ⟨new, found⟩ := made found
    exact .file up found
  | file up found =>
    obtain ⟨new, found⟩ := persists.file found
    exact .file up found
  | down up found _ ih => exact .down up (persists.solid found (by simp)) (ih made)
  | link up found nonempty _ ih =>
    exact .link up (persists.solid found (by simp)) nonempty (ih made)

theorem Leads.existing {root : Node} {creating : Bool} {links : Nat} {here names : List String}
    {d : Destination} (h : Leads root creating links here names d) :
    Leads root false links here names d := by
  have passes {step : String} {rest : List String} (up : LookedUp creating step rest) :
      LookedUp false step rest := ⟨up.moves, up.descends, by simp, up.short⟩
  induction h with
  | arrive links here => exact .arrive links here
  | stay stays _ ih => exact .stay stays ih
  | up _ ih => exact .up ih
  | new up found => exact .new (passes up) found
  | file up found => exact .file (passes up) found
  | down up found _ ih => exact .down (passes up) found ih
  | link up found nonempty _ ih => exact .link (passes up) found nonempty ih

namespace FileSystem

variable {fs changed : FileSystem} {path : String} {location : List String}
  {content : List UInt8}

theorem Replaced.persists (h : fs.Replaced changed location content)
    (takes : fs.TakesFile location) : fs.root.Persists changed.root where
  solid {other s} found noFile := by
    rw [h.kept other, found]
    rintro rfl
    obtain free | ⟨old, free⟩ := takes.surface
    · simp [free] at found
    · exact noFile old (by simpa [free] using found.symm)
  file {other old} found := by
    by_cases same : other = location
    · exact ⟨content, same ▸ h.written⟩
    · exact ⟨old, (h.kept other same).trans found⟩

theorem Replaced.resolve {creating : Bool} {d : Destination}
    (h : fs.Replaced changed location content) (takes : fs.TakesFile location)
    (resolved : fs.resolve creating path = .ok d)
    (made : fs.root.surfaceAt? d.location = none → d.location = location) :
    changed.resolve creating path = .ok (.present d.location) := by
  obtain ⟨followed, leads⟩ := resolve_eq_ok_iff.1 resolved
  refine resolve_eq_ok_iff.2 ⟨followed, h.workingDirectory ▸ leads.persists (h.persists takes) ?_⟩
  exact fun free => ⟨content, made free ▸ h.written⟩

theorem resolve_existing {d : Destination} (h : fs.resolve true path = .ok d) :
    fs.resolve false path = .ok d := by
  obtain ⟨followed, leads⟩ := resolve_eq_ok_iff.1 h
  exact resolve_eq_ok_iff.2 ⟨followed, leads.existing⟩

theorem Replaced.resolve_target (h : fs.Replaced changed location content)
    (target : fs.target path = .ok location) :
    changed.resolve true path = .ok (.present location) := by
  obtain ⟨d, resolved, rfl⟩ := resolve_of_target target
  exact h.resolve (takesFile_of_target target) resolved fun _ => rfl

theorem read_write (h : fs.write path content = .ok changed) :
    changed.read path = .ok content := by
  obtain ⟨location, target, replaced⟩ := replaced_of_write h
  have resolved := resolve_existing (replaced.resolve_target target)
  have found := Node.surfaceAt?_eq_file_iff.1 replaced.written
  simp [read, node, resolved, found, bind, Except.bind]

end FileSystem
end TagIndex.Files
