import TagIndex.Files.Node

/-! Locations in a file system: what putting and taking away a node does to the location it is put
at, and that all other locations keep what they show. -/

namespace TagIndex.Files.Node

@[simp] theorem at?_nil (n : Node) : n.at? [] = some n := by cases n <;> rfl

theorem at?_directory_cons (entries : Entries) (name : String) (rest : List String) :
    (directory entries).at? (name :: rest) = (entries.find? name).bind (·.at? rest) := by
  rw [at?]
  cases entries.find? name <;> rfl

@[simp] theorem at?_file_cons (content : List UInt8) (name : String) (rest : List String) :
    (file content).at? (name :: rest) = none := rfl

@[simp] theorem at?_link_cons (target name : String) (rest : List String) :
    (link target).at? (name :: rest) = none := rfl

theorem at?_append (n : Node) (location rest : List String) :
    n.at? (location ++ rest) = (n.at? location).bind (·.at? rest) := by
  induction location generalizing n with
  | nil => simp
  | cons name location ih =>
    cases n with
    | directory entries =>
      simp only [List.cons_append, at?_directory_cons, Option.bind_assoc, ih]
    | _ => rfl

theorem surfaceAt?_nil (n : Node) : n.surfaceAt? [] = some n.surface := by simp [surfaceAt?]

theorem surfaceAt?_directory_cons (entries : Entries) (name : String) (rest : List String) :
    (directory entries).surfaceAt? (name :: rest) =
      (entries.find? name).bind (·.surfaceAt? rest) := by
  simp only [surfaceAt?, at?_directory_cons]
  cases entries.find? name <;> rfl

theorem surfaceAt?_eq_file_iff {n : Node} {location : List String} {content : List UInt8} :
    n.surfaceAt? location = some (.file content) ↔ n.at? location = some (.file content) := by
  rw [surfaceAt?, Option.map_eq_some_iff]
  constructor
  · rintro ⟨found, h, surface⟩
    cases found <;> simp_all [Node.surface]
  · intro h
    exact ⟨_, h, rfl⟩

theorem surfaceAt?_eq_directory_iff {n : Node} {location : List String} :
    n.surfaceAt? location = some .directory ↔
      ∃ entries, n.at? location = some (.directory entries) := by
  rw [surfaceAt?, Option.map_eq_some_iff]
  constructor
  · rintro ⟨found, h, surface⟩
    cases found <;> simp_all [Node.surface]
  · rintro ⟨entries, h⟩
    exact ⟨_, h, rfl⟩

theorem surfaceAt?_eq_directory_of_append {n : Node} {location rest : List String}
    (h : n.surfaceAt? (location ++ rest) ≠ none) (nonempty : rest ≠ []) :
    n.surfaceAt? location = some .directory := by
  obtain ⟨name, rest, rfl⟩ := List.exists_cons_of_ne_nil nonempty
  rw [surfaceAt?_eq_directory_iff]
  simp only [surfaceAt?, at?_append] at h
  cases found : n.at? location with
  | none => simp [found] at h
  | some child =>
    cases child with
    | directory entries => exact ⟨entries, rfl⟩
    | _ => simp [found] at h

theorem not_prefix_of_surfaceAt?_eq_directory {n : Node} {location other : List String}
    (h : n.surfaceAt? other = some .directory) (free : n.surfaceAt? location ≠ some .directory) :
    ¬ location <+: other := by
  rintro ⟨rest, rfl⟩
  by_cases empty : rest = []
  · subst rest
    exact free (by simpa using h)
  · exact free (surfaceAt?_eq_directory_of_append (by simp [h]) empty)

theorem Sound.of_at? {n found : Node} (sound : n.Sound) {location : List String}
    (h : n.at? location = some found) : found.Sound := by
  induction location generalizing n with
  | nil => simp_all
  | cons name location ih =>
    cases sound with
    | file content => cases h
    | link readable => cases h
    | directory distinct named below =>
      rw [at?_directory_cons] at h
      obtain ⟨child, hc, h⟩ := Option.bind_eq_some_iff.1 h
      exact ih (below _ (Entries.mem_of_find? hc)) h

theorem Sound.isName {n : Node} (sound : n.Sound) {location : List String} {name : String}
    (h : n.surfaceAt? (location ++ [name]) ≠ none) : IsName name := by
  obtain ⟨entries, found⟩ := surfaceAt?_eq_directory_iff.1
    (surfaceAt?_eq_directory_of_append h (by simp))
  simp only [surfaceAt?, at?_append, found, Option.bind_some, at?_directory_cons] at h
  cases hc : Entries.find? entries name with
  | none => simp [hc] at h
  | some child =>
    cases sound.of_at? found with
    | directory distinct named below => exact named _ (Entries.mem_of_find? hc)

theorem surfaceAt?_put_of_not_prefix (n new : Node) {location other : List String}
    (h : ¬ location <+: other) : (n.put location new).surfaceAt? other = n.surfaceAt? other := by
  induction location generalizing n other with
  | nil => simp at h
  | cons name location ih =>
    cases n with
    | file _ | link _ => rfl
    | directory entries =>
      rw [put]
      cases other with
      | nil =>
        simp only [surfaceAt?_nil]
        split
        · rfl
        · split <;> rfl
      | cons first other =>
        split
        · rw [surfaceAt?_directory_cons, surfaceAt?_directory_cons, Entries.find?_change]
          split
          · subst first
            have below : ¬ location <+: other := by simpa [List.cons_prefix_cons] using h
            cases Entries.find? entries name <;> simp [ih _ below]
          · rfl
        · rename_i found
          split
          · subst location
            have differ : first ≠ name := by
              rintro rfl
              exact h (by simp [List.cons_prefix_cons])
            rw [surfaceAt?_directory_cons, surfaceAt?_directory_cons,
              Entries.find?_append_new new first (by simpa using found), if_neg differ]
          · rfl

theorem at?_put {n : Node} {directory : List String} (name : String) (new : Node)
    (h : n.surfaceAt? directory = some .directory) :
    (n.put (directory ++ [name]) new).at? (directory ++ [name]) = some new := by
  induction directory generalizing n with
  | nil =>
    cases n with
    | directory entries =>
      rw [List.nil_append, put]
      split
      · rename_i found
        obtain ⟨old, found⟩ := Option.isSome_iff_exists.1 found
        rw [at?_directory_cons, Entries.find?_change, if_pos rfl, found]
        simp [put]
      · rename_i found
        rw [if_pos rfl, at?_directory_cons,
          Entries.find?_append_new new name (by simpa using found), if_pos rfl]
        simp
    | _ => simp [surfaceAt?, surface] at h
  | cons first directory ih =>
    cases n with
    | directory entries =>
      rw [surfaceAt?_directory_cons] at h
      obtain ⟨child, found, below⟩ := Option.bind_eq_some_iff.1 h
      rw [List.cons_append, put, if_pos (by simp [found]), at?_directory_cons,
        Entries.find?_change, if_pos rfl, found]
      simpa using ih below
    | _ => simp [surfaceAt?] at h

theorem surfaceAt?_put_file {n : Node} {directory : List String} (name : String)
    (content : List UInt8) (h : n.surfaceAt? directory = some .directory) (other : List String) :
    (n.put (directory ++ [name]) (.file content)).surfaceAt? other =
      if other = directory ++ [name] then some (.file content)
      else if directory ++ [name] <+: other then none else n.surfaceAt? other := by
  split
  · subst other
    rw [surfaceAt?, at?_put name _ h]
    rfl
  · rename_i differ
    split
    · rename_i below
      obtain ⟨rest, rfl⟩ := below
      obtain ⟨first, rest, rfl⟩ := List.exists_cons_of_ne_nil
        (show rest ≠ [] from fun empty => differ (by simp [empty]))
      rw [surfaceAt?, at?_append, at?_put name _ h]
      rfl
    · exact surfaceAt?_put_of_not_prefix n _ ‹_›

theorem Sound.change {entries : Entries} (distinct : (entries.map (·.1)).Nodup)
    (named : ∀ e ∈ entries, IsName e.1) (below : ∀ e ∈ entries, Sound e.2) {name : String}
    {f : Node → Node} (keeps : ∀ n, Sound n → Sound (f n)) :
    (Node.directory (entries.change name f)).Sound := by
  refine .directory (by rwa [Entries.names_change]) ?_ ?_
  · intro e he
    have h : e.1 ∈ entries.map (·.1) := by
      rw [← Entries.names_change entries name f]
      exact List.mem_map_of_mem he
    obtain ⟨old, ho, same⟩ := List.mem_map.1 h
    exact same ▸ named old ho
  · intro e he
    obtain ⟨old, ho, rfl⟩ := List.mem_map.1 he
    split
    · exact keeps _ (below old ho)
    · exact below old ho

theorem Sound.put {n new : Node} (sound : n.Sound) {location : List String} (good : new.Sound)
    (named : ∀ name ∈ location.getLast?, IsName name) : (n.put location new).Sound := by
  induction location generalizing n with
  | nil => simpa [Node.put] using good
  | cons name location ih =>
    cases sound with
    | file content => exact .file content
    | link readable => exact .link readable
    | @directory entries distinct names below =>
      rw [Node.put]
      split
      · refine .change distinct names below fun n hn => ih hn fun last hl => named last ?_
        cases location with
        | nil => cases hl
        | cons _ _ => simpa using hl
      · rename_i absent
        split
        · subst location
          have absent : name ∉ entries.map (·.1) := by
            rw [← Entries.find?_eq_none_iff]
            simpa using absent
          refine .directory ?_ ?_ ?_
          · rw [List.map_append, List.nodup_append]
            refine ⟨distinct, by simp, fun first hf last hl same => absent ?_⟩
            simp_all
          · intro e he
            obtain he | he := List.mem_append.1 he
            · exact names e he
            · obtain rfl := List.mem_singleton.1 he
              exact named name (by simp)
          · intro e he
            obtain he | he := List.mem_append.1 he
            · exact below e he
            · obtain rfl := List.mem_singleton.1 he
              exact good
        · exact .directory distinct names below

theorem surfaceAt?_remove_of_not_prefix (n : Node) {location other : List String}
    (h : ¬ location <+: other) : (n.remove location).surfaceAt? other = n.surfaceAt? other := by
  induction location generalizing n other with
  | nil => simp at h
  | cons name location ih =>
    cases n with
    | file _ | link _ => cases location <;> rfl
    | directory entries =>
      cases other with
      | nil => cases location <;> simp [remove, surfaceAt?_nil, surface]
      | cons first other =>
        cases location with
        | nil =>
          have differ : first ≠ name := by
            rintro rfl
            exact h (by simp [List.cons_prefix_cons])
          simp only [remove, surfaceAt?_directory_cons, Entries.find?_filter_ne, if_neg differ]
        | cons second location =>
          rw [remove, surfaceAt?_directory_cons, surfaceAt?_directory_cons, Entries.find?_change]
          split
          · subst first
            have below : ¬ second :: location <+: other := by
              simpa [List.cons_prefix_cons] using h
            cases Entries.find? entries name <;> simp [ih _ below]
          · rfl
          · simp

theorem Sound.remove {n : Node} (sound : n.Sound) (location : List String) :
    (n.remove location).Sound := by
  induction location generalizing n with
  | nil => cases n <;> exact sound
  | cons name location ih =>
    cases sound with
    | file content => cases location <;> exact .file content
    | link readable => cases location <;> exact .link readable
    | @directory entries distinct names below =>
      cases location with
      | nil =>
        exact .directory (distinct.sublist (List.filter_sublist.map _))
          (fun e he => names e (List.mem_filter.1 he |>.1))
          (fun e he => below e (List.mem_filter.1 he |>.1))
      | cons second location => exact .change distinct names below fun n hn => ih hn

end TagIndex.Files.Node
