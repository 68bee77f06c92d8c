import TagIndex.Files.FileSystem
import TagIndex.Proofs.Data.Traversal
import TagIndex.Proofs.Files.Relative

/-! Names joined to the path of a directory lead to what the walk met under these names: the walk
goes from entry to entry, the path through all names and links of the root, and both arrive at the
same file. -/

namespace TagIndex.Files

/-- The names of a path, without the empty one that asks for a directory. -/
def solidSteps (path : String) : List String := (steps path).filter (· ≠ "")

theorem steps_eq (path : String) : steps path =
    (pieces path).filter (· ≠ "") ++ if (pieces path).getLast? = some "" then [""] else [] := rfl

theorem solidSteps_eq (path : String) : solidSteps path = (pieces path).filter (· ≠ "") := by
  rw [solidSteps, steps_eq, List.filter_append, List.filter_filter]
  split <;> simp

theorem steps_cases (path : String) :
    steps path = solidSteps path ∨ steps path = solidSteps path ++ [""] := by
  rw [solidSteps_eq, steps_eq]
  split
  · exact .inr rfl
  · exact .inl (List.append_nil _)

theorem steps_join (path : String) {name : String} (named : IsName name) :
    steps (join path name) = solidSteps path ++ [name] := by
  obtain ⟨front, spelled, joined⟩ := exists_front path
  have last : pieces (join path name) = pieces front ++ [name] := by
    rw [joined, pieces_append_slash, pieces_of_isName named]
  have solid : solidSteps path = (pieces front).filter (· ≠ "") := by
    obtain rfl | rfl := spelled
    · exact solidSteps_eq path
    · have slash : front ++ "/" = front ++ "/" ++ "" := String.append_empty.symm
      rw [solidSteps_eq, slash, pieces_append_slash]
      simp [pieces]
  rw [steps_eq, last, solid]
  simp [named.1]

theorem isAbsolute_join {path : String} (nonempty : path ≠ "") (name : String) :
    isAbsolute (join path name) = isAbsolute path := by
  obtain ⟨c, chars, split⟩ := List.exists_cons_of_ne_nil (mt String.toList_eq_nil_iff.1 nonempty)
  unfold isAbsolute join
  split_ifs <;> simp [split]

theorem utf8ByteSize_le_joinAll (path : String) (chain : List String) :
    path.utf8ByteSize ≤ (joinAll path chain).utf8ByteSize := by
  induction chain generalizing path with
  | nil => exact Nat.le_refl _
  | cons name chain ih =>
    have longer : path.utf8ByteSize ≤ (join path name).utf8ByteSize := by
      unfold join
      split_ifs <;> simp only [String.utf8ByteSize_append] <;> omega
    exact Nat.le_trans longer (ih (join path name))

section

variable {root : Node} {links : Nat} {here names rest location : List String} {d : Destination}

theorem LookedUp.passing {step : String} {rest rest' : List String}
    (up : LookedUp false step rest) : LookedUp false step rest' :=
  ⟨up.moves, up.descends, by simp, up.short⟩

theorem LookedUp.exists_of_append_blank {step : String} (up : LookedUp false step rest)
    (all : names ++ [""] = step :: rest) : ∃ more, names = step :: more ∧ rest = more ++ [""] := by
  obtain ⟨rfl, single⟩ | ⟨more, split, last⟩ := List.append_eq_cons_iff.1 all
  · exact absurd (.inl (List.cons.inj single).1.symm) up.moves
  · exact ⟨more, split, last⟩

theorem Leads.of_append_blank (h : Leads root false links here (names ++ [""]) d) :
    Leads root false links here names d := by
  generalize all : names ++ [""] = steps at h
  induction h generalizing names with
  | arrive => simp at all
  | stay stays onward ih =>
    obtain ⟨rfl, single⟩ | ⟨more, rfl, rfl⟩ := List.append_eq_cons_iff.1 all
    · obtain ⟨rfl, rfl⟩ := List.cons.inj single
      exact onward
    · exact .stay stays (ih rfl)
  | up onward ih =>
    obtain ⟨rfl, single⟩ | ⟨more, rfl, rfl⟩ := List.append_eq_cons_iff.1 all
    · simp at single
    · exact .up (ih rfl)
  | new up found | file up found =>
    obtain ⟨more, -, last⟩ := up.exists_of_append_blank all
    simp at last
  | down up found onward ih =>
    obtain ⟨more, rfl, rfl⟩ := up.exists_of_append_blank all
    exact .down up.passing found (ih rfl)
  | link up found nonempty onward ih =>
    obtain ⟨more, rfl, rfl⟩ := up.exists_of_append_blank all
    exact .link up.passing found nonempty (ih (List.append_assoc ..))

/-- Where a path leads to a directory, more names lead on from there, whatever links were followed
on the way. -/
theorem Leads.append (h : Leads root false links here names (.present location))
    (stands : root.surfaceAt? location = some .directory)
    (onward : ∀ links, Leads root false links location rest d) :
    Leads root false links here (names ++ rest) d := by
  generalize reached : Destination.present location = there at h
  induction h with
  | arrive links here =>
    cases reached
    exact onward links
  | stay stays _ ih => exact .stay stays (ih reached)
  | up _ ih => exact .up (ih reached)
  | new up found => cases reached
  | file up found =>
    cases reached
    rw [found] at stands
    cases stands
  | down up found _ ih => exact .down up.passing found (ih reached)
  | link up found nonempty _ ih =>
    exact .link up.passing found nonempty (List.append_assoc .. ▸ ih reached)

end

theorem Entries.find?_of_mem {entries : Entries} {name : String} {child : Node}
    (distinct : (entries.map (·.1)).Nodup) (listed : (name, child) ∈ entries) :
    entries.find? name = some child := by
  induction entries with
  | nil => cases listed
  | cons e entries ih =>
    rw [List.map_cons, List.nodup_cons] at distinct
    rw [find?_cons]
    obtain rfl | listed := List.mem_cons.1 listed
    · exact if_pos rfl
    · have other : e.1 ≠ name := by
        rintro rfl
        exact distinct.1 (List.mem_map.2 ⟨_, listed, rfl⟩)
      rw [if_neg other, ih distinct.2 listed]

namespace Node

theorem surfaceAt?_append {n child : Node} {location : List String}
    (found : n.at? location = some child) (rest : List String) :
    n.surfaceAt? (location ++ rest) = child.surfaceAt? rest := by
  rw [surfaceAt?, at?_append, found]
  rfl

theorem reaches_iff {n : Node} (sound : n.Sound) {chain : List String} :
    n.Reaches chain ↔ ∃ content, n.surfaceAt? chain = some (.file content) := by
  simp only [surfaceAt?_eq_file_iff]
  constructor
  · intro reaches
    induction reaches with
    | file content => exact ⟨content, rfl⟩
    | entry listed _ ih =>
      cases sound with
      | directory distinct named below =>
        obtain ⟨content, found⟩ := ih (below _ listed)
        refine ⟨content, ?_⟩
        rw [at?_directory_cons, Entries.find?_of_mem distinct listed]
        exact found
  · rintro ⟨content, found⟩
    induction chain generalizing n with
    | nil =>
      rw [at?_nil] at found
      rw [Option.some.inj found]
      exact .file content
    | cons name chain ih =>
      cases sound with
      | file content => cases found
      | link readable => cases found
      | directory distinct named below =>
        rw [at?_directory_cons] at found
        obtain ⟨child, listed, found⟩ := Option.bind_eq_some_iff.1 found
        have listed := Entries.mem_of_find? listed
        exact .entry listed (ih (below _ listed) found)

end Node

namespace FileSystem

variable {fs : FileSystem} {path : String} {location : List String} {n : Node}

theorem exists_location (h : fs.node path = .ok n) :
    ∃ location, fs.resolve false path = .ok (.present location) ∧
      fs.root.at? location = some n := by
  obtain ⟨d, resolved, found⟩ := bind_eq_ok_iff.1 h
  cases d with
  | vacant directory name => cases found
  | present location =>
    refine ⟨location, resolved, ?_⟩
    dsimp only at found
    split at found
    · rename_i stands
      rw [stands, Except.ok.inj found]
    · cases found

theorem node_of_resolve (h : fs.resolve false path = .ok (.present location))
    (stands : fs.root.at? location = some n) : fs.node path = .ok n := by
  simp [node, h, stands, bind, Except.bind]

theorem file_or_directory (h : fs.node path = .ok n) :
    (∃ content, n = .file content) ∨ ∃ entries, n = .directory entries := by
  obtain ⟨location, resolved, stands⟩ := exists_location h
  cases fits_of_resolve resolved with
  | directory found =>
    obtain ⟨entries, same⟩ := Node.surfaceAt?_eq_directory_iff.1 found
    exact .inr ⟨entries, Option.some.inj (stands.symm.trans same)⟩
  | file found =>
    exact .inl ⟨_, Option.some.inj (stands.symm.trans (Node.surfaceAt?_eq_file_iff.1 found))⟩

theorem Followed.join {name : String} (followed : Followed path) (named : IsName name)
    (short : (join path name).utf8ByteSize ≤ pathLimit) : Followed (join path name) := by
  obtain ⟨-, -, -, -, -, noNul⟩ := named
  refine ⟨?_, ?_, short⟩
  · unfold Files.join
    split_ifs <;> simp [followed.readable, noNul]
  · unfold Files.join
    split_ifs <;> simp [followed.nonempty]

theorem resolve_join {name : String} {s : Surface}
    (h : fs.resolve false path = .ok (.present location))
    (stands : fs.root.surfaceAt? location = some .directory)
    (found : fs.root.surfaceAt? (location ++ [name]) = some s) (real : ∀ target, s ≠ .link target)
    (short : (join path name).utf8ByteSize ≤ pathLimit) :
    fs.resolve false (join path name) = .ok (.present (location ++ [name])) := by
  have named : IsName name := fs.sound.isName (found ▸ Option.some_ne_none s)
  obtain ⟨followed, leads⟩ := resolve_eq_ok_iff.1 h
  have lookedUp : LookedUp false name [] :=
    ⟨fun idle => idle.elim named.1 named.2.1, named.2.2.1, by simp, named.2.2.2.1⟩
  have onward : ∀ links, Leads fs.root false links location [name]
      (.present (location ++ [name])) := by
    intro links
    cases s with
    | file content => exact .file lookedUp found
    | directory => exact .down lookedUp found (.arrive links _)
    | link target => exact absurd rfl (real target)
  have solid : Leads fs.root false linkLimit (if isAbsolute path then [] else fs.workingDirectory)
      (solidSteps path) (.present location) := by
    obtain plain | slash := steps_cases path
    · exact plain ▸ leads
    · exact (slash ▸ leads).of_append_blank
  refine resolve_eq_ok_iff.2 ⟨followed.join named short, ?_⟩
  rw [isAbsolute_join followed.nonempty, steps_join path named]
  exact solid.append stands onward

theorem resolve_joinAll {chain : List String} (reaches : n.Reaches chain)
    (h : fs.resolve false path = .ok (.present location)) (stands : fs.root.at? location = some n)
    (short : (joinAll path chain).utf8ByteSize ≤ pathLimit) :
    fs.resolve false (joinAll path chain) = .ok (.present (location ++ chain)) := by
  induction reaches generalizing path location with
  | file content => rwa [List.append_nil]
  | @entry entries name child rest listed below ih =>
    have distinct : (entries.map (·.1)).Nodup := by
      cases fs.sound.of_at? stands with
      | directory distinct _ _ => exact distinct
    have stands' : fs.root.at? (location ++ [name]) = some child := by
      rw [Node.at?_append, stands, Option.bind_some, Node.at?_directory_cons,
        Entries.find?_of_mem distinct listed, Option.bind_some, Node.at?_nil]
    have real : ∀ target, child.surface ≠ .link target := by
      cases below <;> simp [Node.surface]
    have resolved : fs.resolve false (join path name) = .ok (.present (location ++ [name])) :=
      resolve_join h (Node.surfaceAt?_eq_directory_iff.2 ⟨entries, stands⟩)
        (by rw [Node.surfaceAt?, stands', Option.map_some]) real
        (Nat.le_trans (utf8ByteSize_le_joinAll _ rest) short)
    have onward := ih resolved stands' short
    rwa [List.append_assoc] at onward

theorem exists_file_joinAll {chain : List String} (reaches : n.Reaches chain)
    (h : fs.resolve false path = .ok (.present location)) (stands : fs.root.at? location = some n)
    (short : (joinAll path chain).utf8ByteSize ≤ pathLimit) :
    ∃ content, fs.node (joinAll path chain) = .ok (.file content) := by
  obtain ⟨content, found⟩ := (Node.reaches_iff (fs.sound.of_at? stands)).1 reaches
  rw [← Node.surfaceAt?_append stands, Node.surfaceAt?_eq_file_iff] at found
  exact ⟨content, node_of_resolve (resolve_joinAll reaches h stands short) found⟩

end FileSystem
end TagIndex.Files
