import TagIndex.Files.Editing
import TagIndex.Proofs.Files.Rewriting

/-! Making entries takes nothing away, so paths lead where they led before. Removing what was made
gives back the file system as it was. -/

namespace TagIndex.Files

namespace Entries

theorem filter_append_new {entries : Entries} {name : String} (new : Node)
    (free : entries.find? name = none) :
    (entries ++ [(name, new)]).filter (fun e => e.1 ≠ name) = entries := by
  have others : ∀ e ∈ entries, e.1 ≠ name := fun e listed same =>
    find?_eq_none_iff.1 free (same ▸ List.mem_map_of_mem listed)
  simpa using others

theorem change_change (entries : Entries) (name : String) (f g : Node → Node) :
    (entries.change name f).change name g = entries.change name fun n => g (f n) := by
  simp only [change, List.map_map]
  refine List.map_congr_left fun e _ => ?_
  by_cases same : e.1 = name <;> simp [same]

end Entries

theorem Node.remove_put {n : Node} (sound : n.Sound) {directory : List String} {name : String}
    (above : n.surfaceAt? directory = some .directory)
    (free : n.surfaceAt? (directory ++ [name]) = none) (new : Node) :
    (n.put (directory ++ [name]) new).remove (directory ++ [name]) = n := by
  induction directory generalizing n with
  | nil =>
    cases sound with
    | file content => cases above
    | link readable => cases above
    | @directory entries distinct named below =>
      have absent : entries.find? name = none := by
        rw [List.nil_append, surfaceAt?_directory_cons] at free
        cases found : entries.find? name with
        | none => rfl
        | some child => simp [found, surfaceAt?_nil] at free
      rw [List.nil_append, put, if_neg (by simp [absent]), if_pos rfl, remove,
        Entries.filter_append_new new absent]
  | cons first directory ih =>
    cases sound with
    | file content => cases above
    | link readable => cases above
    | @directory entries distinct named below =>
      obtain ⟨child, found, above⟩ := Option.bind_eq_some_iff.1
        ((surfaceAt?_directory_cons ..).symm.trans above)
      rw [List.cons_append, surfaceAt?_directory_cons, found] at free
      have same := ih (below _ (Entries.mem_of_find? found)) above free
      obtain ⟨second, rest, split⟩ := List.exists_cons_of_ne_nil
        (List.append_ne_nil_of_right_ne_nil directory (List.cons_ne_nil name []))
      rw [List.cons_append, put, if_pos (by simp [found]), split, remove, ← split,
        Entries.change_change, Entries.change_eq_self distinct found same]
      simp

namespace FileSystem

structure Extends (before after : FileSystem) : Prop where
  workingDirectory : after.workingDirectory = before.workingDirectory
  kept : ∀ location, before.root.surfaceAt? location ≠ none →
    after.root.surfaceAt? location = before.root.surfaceAt? location

variable {fs changed after : FileSystem} {path : String} {location : List String}

theorem Extends.refl (fs : FileSystem) : fs.Extends fs := ⟨rfl, fun _ _ => rfl⟩

theorem Extends.trans (first : fs.Extends changed) (second : changed.Extends after) :
    fs.Extends after where
  workingDirectory := second.workingDirectory.trans first.workingDirectory
  kept location stands := by
    have still := first.kept location stands
    exact (second.kept location (still ▸ stands)).trans still

theorem Extends.persists (h : fs.Extends changed) : fs.root.Persists changed.root where
  solid {location s} found _ := by rw [h.kept location (by simp [found]), found]
  file {location old} found := ⟨old, by rw [h.kept location (by simp [found]), found]⟩

theorem Extends.resolve (h : fs.Extends changed) {creating : Bool}
    (resolved : fs.resolve creating path = .ok (.present location)) :
    changed.resolve creating path = .ok (.present location) := by
  have stands : fs.root.surfaceAt? location ≠ none := by
    cases fits_of_resolve resolved <;> simp_all
  obtain ⟨followed, leads⟩ := resolve_eq_ok_iff.1 resolved
  refine resolve_eq_ok_iff.2 ⟨followed, h.workingDirectory ▸ ?_⟩
  exact leads.persists h.persists fun free => absurd free stands

theorem entryLocation_eq_ok_iff : fs.entryLocation path = .ok location ↔
    ∃ above name directory, splitPath path = some (above, name) ∧
      fs.resolve false above = .ok (.present directory) ∧
      fs.root.surfaceAt? directory = some .directory ∧ location = directory ++ [name] := by
  unfold entryLocation
  cases split : splitPath path with
  | none => simp
  | some parts =>
    obtain ⟨above, name⟩ := parts
    cases resolved : fs.resolve false above with
    | error cause => simp [resolved, bind, Except.bind]
    | ok d =>
      cases d with
      | vacant directory last => simp [resolved, bind, Except.bind]
      | present directory =>
        by_cases stands : fs.root.surfaceAt? directory = some .directory
        · simp [resolved, bind, Except.bind, stands, eq_comm]
        · simp [resolved, bind, Except.bind, stands]

theorem Extends.entryLocation (h : fs.Extends changed)
    (stands : fs.entryLocation path = .ok location) :
    changed.entryLocation path = .ok location := by
  obtain ⟨above, name, directory, split, resolved, found, rfl⟩ := entryLocation_eq_ok_iff.1 stands
  have still := h.kept directory (by simp [found])
  exact entryLocation_eq_ok_iff.2
    ⟨above, name, directory, split, h.resolve resolved, still.trans found, rfl⟩

theorem extends_put {new : Node} (good : new.Sound)
    (named : ∀ name ∈ location.getLast?, IsName name)
    (free : fs.root.surfaceAt? location = none) :
    fs.Extends (fs.put location new good named (by simp [free])) where
  workingDirectory := rfl
  kept other stands := by
    refine Node.surfaceAt?_put_of_not_prefix _ _ ?_
    rintro ⟨rest, rfl⟩
    by_cases empty : rest = []
    · simp [empty, free] at stands
    · simp [Node.surfaceAt?_eq_directory_of_append stands empty] at free

theorem extends_makeDirectory (h : fs.makeDirectory path = .ok changed) : fs.Extends changed := by
  unfold makeDirectory at h
  split at h
  · cases h
  · split at h
    · obtain rfl := Except.ok.inj h
      exact .refl fs
    · cases h
  · rename_i directory name resolved
    obtain rfl := Except.ok.inj h
    cases fits_of_resolve resolved with
    | vacant named above free => exact extends_put _ _ free

theorem extends_makeDirectories (h : fs.makeDirectories path = .ok changed) :
    fs.Extends changed := by
  obtain ⟨paths, made⟩ : ∃ paths, List.foldlM makeDirectory fs paths = .ok changed := ⟨_, h⟩
  clear h
  induction paths generalizing fs with
  | nil =>
    obtain rfl := Except.ok.inj made
    exact .refl fs
  | cons path paths ih =>
    obtain ⟨next, first, later⟩ := bind_eq_ok_iff.1 made
    exact (extends_makeDirectory first).trans (ih later)

theorem extends_makeAbove (h : fs.makeAbove path = .ok changed) : fs.Extends changed := by
  unfold makeAbove at h
  split at h
  · exact extends_makeDirectories h
  · obtain rfl := Except.ok.inj h
    exact .refl fs

theorem extends_makeLink {target : String} (h : fs.makeLink path target = .ok changed) :
    fs.Extends changed := by
  unfold makeLink at h
  obtain ⟨location, -, h⟩ := bind_eq_ok_iff.1 h
  split_ifs at h with readable taken named
  · obtain rfl := Except.ok.inj h
    exact extends_put _ named (by simpa using taken)

theorem removeFile_put {new : Node} (good : new.Sound)
    (named : ∀ name ∈ location.getLast?, IsName name)
    (stands : fs.entryLocation path = .ok location) (free : fs.root.surfaceAt? location = none)
    (other : new.surface ≠ .directory) :
    (fs.put location new good named (by simp [free])).removeFile path = .ok fs := by
  obtain ⟨above, name, directory, -, -, found, rfl⟩ := entryLocation_eq_ok_iff.1 stands
  have again := (extends_put good named free).entryLocation stands
  have placed : (fs.put (directory ++ [name]) new good named (by simp [free])).root.surfaceAt?
      (directory ++ [name]) = some new.surface := by
    rw [Node.surfaceAt?, put, Node.at?_put name new found, Option.map_some]
  have same := Node.remove_put fs.sound found free new
  rw [removeFile, again]
  change (if _ : _ then _ else _) = _
  rw [dif_neg (by simpa [placed] using other), if_neg (by simp [placed])]
  cases fs
  simp only [remove, put, same]

/-- What was made where nothing stood can be taken away again. -/
theorem removeFile_makeLink {target : String} (h : fs.makeLink path target = .ok changed) :
    changed.removeFile path = .ok fs := by
  unfold makeLink at h
  obtain ⟨location, stands, h⟩ := bind_eq_ok_iff.1 h
  split_ifs at h with readable taken named
  · obtain rfl := Except.ok.inj h
    exact removeFile_put _ named stands (by simpa using taken) (by simp [Node.surface])

theorem removeFile_write {content : List UInt8} (target : fs.target path = .ok location)
    (stands : fs.entryLocation path = .ok location) (free : fs.root.surfaceAt? location = none)
    (h : fs.write path content = .ok changed) : changed.removeFile path = .ok fs := by
  unfold write at h
  split at h
  · rename_i other target'
    obtain rfl := Except.ok.inj h
    obtain rfl := Except.ok.inj (target.symm.trans target')
    exact removeFile_put _ _ stands free (by simp [Node.surface])
  · cases h

end FileSystem
end TagIndex.Files
