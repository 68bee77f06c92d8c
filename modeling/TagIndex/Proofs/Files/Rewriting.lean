import TagIndex.Proofs.Files.Below
import TagIndex.Proofs.Files.Writing

/-! A file system after a file was written: to write the same once more changes nothing, paths that
led somewhere lead to the same place, and a directory has the same files below it unless the file
is a new one there. -/

namespace TagIndex.Files

namespace Entries

theorem change_eq_self {entries : Entries} {name : String} {f : Node → Node} {child : Node}
    (distinct : (entries.map (·.1)).Nodup) (found : entries.find? name = some child)
    (same : f child = child) : entries.change name f = entries := by
  have each : ∀ e ∈ entries, (if e.1 = name then (name, f e.2) else e) = e := by
    rintro ⟨other, n⟩ listed
    split
    · rename_i named
      dsimp only at named
      subst named
      have only := (find?_of_mem distinct listed).symm.trans found
      rw [Option.some.inj only, same]
    · rfl
  rw [change, List.map_congr_left each, List.map_id']

end Entries

namespace Node

theorem put_eq_self {n new : Node} (sound : n.Sound) {location : List String}
    (found : n.at? location = some new) : n.put location new = n := by
  induction location generalizing n with
  | nil =>
    rw [at?_nil] at found
    rw [put, Option.some.inj found]
  | cons name location ih =>
    cases sound with
    | file content => rfl
    | link readable => rfl
    | @directory entries distinct named below =>
      rw [at?_directory_cons] at found
      obtain ⟨child, listed, found⟩ := Option.bind_eq_some_iff.1 found
      have same := ih (below _ (Entries.mem_of_find? listed)) found
      rw [put, if_pos (by simp [listed]), Entries.change_eq_self distinct listed same]

end Node

namespace FileSystem

variable {fs changed : FileSystem} {path : String} {location place : List String}
  {content : List UInt8}

theorem write_eq_self (target : fs.target path = .ok location)
    (found : fs.root.surfaceAt? location = some (.file content)) :
    fs.write path content = .ok fs := by
  have same := Node.put_eq_self fs.sound (Node.surfaceAt?_eq_file_iff.1 found)
  unfold write
  split
  · rename_i other target'
    obtain rfl : other = location := by simpa [target] using target'.symm
    cases fs
    simp only [put, same]
  · simp_all

theorem Replaced.write (h : fs.Replaced changed location content)
    (target : fs.target path = .ok location) : changed.write path content = .ok changed := by
  have target : changed.target path = .ok location := by
    simp [FileSystem.target, h.resolve_target target, h.written, bind, Except.bind]
  exact write_eq_self target h.written

/-- A path to a file leads to a file, and to the same content unless that is the file written. -/
theorem Replaced.file {old : List UInt8} (h : fs.Replaced changed location content)
    (takes : fs.TakesFile location) (stands : fs.node path = .ok (.file old)) :
    ∃ place new, changed.resolve false path = .ok (.present place) ∧
      changed.node path = .ok (.file new) ∧ (place ≠ location → new = old) := by
  obtain ⟨place, resolved, found⟩ := exists_location stands
  rw [← Node.surfaceAt?_eq_file_iff] at found
  have resolved := h.resolve takes resolved fun free => nomatch found.symm.trans free
  obtain ⟨new, found'⟩ := (h.persists takes).file found
  refine ⟨place, new, resolved, node_of_resolve resolved (Node.surfaceAt?_eq_file_iff.1 found'), ?_⟩
  intro other
  rw [h.kept place other, found] at found'
  cases found'
  rfl

theorem Replaced.directory {entries : Entries} (h : fs.Replaced changed location content)
    (takes : fs.TakesFile location) (resolved : fs.resolve false path = .ok (.present place))
    (found : fs.root.at? place = some (.directory entries)) :
    ∃ entries', changed.resolve false path = .ok (.present place) ∧
      changed.root.at? place = some (.directory entries') := by
  have directory := Node.surfaceAt?_eq_directory_iff.2 ⟨entries, found⟩
  have resolved' := h.resolve takes resolved fun free => nomatch directory.symm.trans free
  obtain ⟨entries', found'⟩ := Node.surfaceAt?_eq_directory_iff.1
    ((h.persists takes).solid directory (by simp))
  exact ⟨entries', resolved', found'⟩

theorem target_of_free {name : String} (named : IsName name)
    (free : fs.root.surfaceAt? (fs.workingDirectory ++ [name]) = none) :
    fs.target name = .ok (fs.workingDirectory ++ [name]) := by
  have names : steps name = [name] := by
    rw [steps_eq, pieces_of_isName named]
    simp [named.1]
  obtain ⟨nonempty, notHere, notUp, short, noSlash, noNul⟩ := named
  have relative : isAbsolute name = false := by
    simp only [isAbsolute, beq_eq_false_iff_ne]
    exact fun slash => noSlash (List.mem_of_mem_head? slash)
  have lookedUp : LookedUp true name [] := ⟨by simp [nonempty, notHere], notUp, by simp, short⟩
  have resolved : fs.resolve true name = .ok (.vacant fs.workingDirectory name) := by
    refine resolve_eq_ok_iff.2 ⟨⟨noNul, nonempty, Nat.le_trans short (by decide)⟩, ?_⟩
    rw [names, relative]
    exact .new lookedUp free
  rw [target, resolved]
  rfl

end FileSystem
end TagIndex.Files
