import TagIndex.Proofs.CommandLine.Verbosity

/-! The reader collects items by the rules. What was read of a command line stays read whatever
words follow, and it tells what was given before. -/

namespace TagIndex.CommandLine
namespace Reading

structure Sound (r : Reading) : Prop where
  output : .output ∈ r.used ↔ r.given.output ≠ none
  recurse : .recurse ∈ r.used ↔ r.given.recurse = true
  verbose : .verbose ∈ r.used ↔ r.given.verbose = true
  waits : ∀ a, r.pending = some (a, []) → a.takesValue = true

def Preserves (step : Reading → Except UsageError Reading) : Prop :=
  ∀ r r' : Reading, r.Sound → step r = .ok r' → r'.Sound

variable {r r' : Reading} {a : Argument} {values words : List String} {word : String}

theorem preserves_error {e : Reading → UsageError} : Preserves fun r => .error (e r) :=
  fun _ _ _ h => nomatch h

theorem Preserves.bind {f g : Reading → Except UsageError Reading} (first : Preserves f)
    (second : Preserves g) : Preserves fun r => f r >>= g := by
  intro r r' sound h
  obtain ⟨middle, read, rest⟩ := bind_eq_ok_iff.1 h
  exact second _ _ (first _ _ sound read) rest

theorem preserves_entered : Preserves (·.entered a values) := by
  intro r r' sound h
  have pending := pending_entered h
  obtain ⟨output, recurse, verbose, waits⟩ := sound
  refine ⟨?_, ?_, ?_, fun b same => waits b (pending ▸ same)⟩ <;>
  · unfold entered enter markUsed at h
    cases a <;> grind

theorem Sound.wait (sound : r.Sound) {argument : Option (Argument × List String)}
    (waits : ∀ a, argument = some (a, []) → a.takesValue = true) :
    Sound { r with pending := argument } :=
  ⟨sound.output, sound.recurse, sound.verbose, waits⟩

theorem preserves_settled : Preserves settled := by
  intro r r' sound h
  cases pending : r.pending with
  | none =>
    rw [settled_of_none pending] at h
    exact Except.ok.inj h ▸ sound
  | some argument =>
    rw [settled_of_pending pending] at h
    have idle : Sound { r with pending := none } := sound.wait (by simp)
    exact preserves_entered _ _ idle h

theorem preserves_add : Preserves (·.add a values) := preserves_settled.bind preserves_entered

theorem preserves_await (takes : a.takesValue = true) : Preserves (·.await a) := by
  refine preserves_settled.bind fun r r' sound h => ?_
  obtain rfl := Except.ok.inj h
  refine sound.wait fun b same => ?_
  obtain ⟨rfl, -⟩ := Prod.mk.inj (Option.some.inj same)
  exact takes

theorem preserves_addFile {path : String} : Preserves (·.addFile path) := by
  intro r r' sound h
  change r.addFile path = .ok r' at h
  by_cases files : ∃ paths, r.pending = some (.files, paths)
  · obtain ⟨paths, pending⟩ := files
    rw [addFile_of_files pending] at h
    exact Except.ok.inj h ▸ sound.wait (by simp)
  · rw [addFile_of_other files] at h
    obtain ⟨middle, settles, same⟩ := bind_eq_ok_iff.1 h
    exact Except.ok.inj same ▸ (preserves_settled _ _ sound settles).wait (by simp)

theorem preserves_addWord : Preserves (·.addWord word) := by
  intro r r' sound h
  change r.addWord word = .ok r' at h
  by_cases full : r.Full
  · rw [addWord_eq full] at h
    exact preserves_addFile _ _ sound h
  · obtain ⟨a, pending⟩ : ∃ a, r.pending = some (a, []) := by simpa [Full] using full
    rw [addWord_of_waiting pending] at h
    exact Except.ok.inj h ▸ sound.wait (by simp)

theorem preserves_addLong {name : List Char} : Preserves (·.addLong name) := by
  unfold addLong
  dsimp only
  split
  · split
    · exact preserves_add
    · exact preserves_error
  · split
    · exact preserves_await ‹_›
    · exact preserves_add
  · exact preserves_error

theorem preserves_addLetters {letters : List Char} : Preserves (·.addLetters letters) := by
  induction letters with
  | nil =>
    rintro r _ sound ⟨⟩
    exact sound
  | cons c rest ih =>
    unfold addLetters
    split
    · exact preserves_error
    · split
      · split
        · exact preserves_await ‹_›
        · exact preserves_add
        · exact preserves_add
      · exact preserves_add.bind ih

theorem exists_step (other : word ≠ "--") : ∃ step, Preserves step ∧
    ∀ (r : Reading) (rest : List String), r.addAll (word :: rest) = step r >>= (·.addAll rest) := by
  by_cases plain : IsPlainWord word
  · exact ⟨_, preserves_addWord, fun r rest => addAll_plain plain⟩
  obtain ⟨hyphen, starts⟩ := not_or.1 plain
  obtain ⟨letters, spelled⟩ := List.head?_eq_some_iff.1 (not_not.1 starts)
  match letters with
  | [] => exact absurd (String.toList_injective spelled) hyphen
  | c :: letters =>
    by_cases long : c = '-'
    · subst long
      have more : letters ≠ [] := by
        rintro rfl
        exact other (String.toList_injective spelled)
      exact ⟨_, preserves_addLong, fun r rest => addAll_long spelled more⟩
    · exact ⟨_, preserves_addLetters, fun r rest => addAll_letters spelled long⟩

theorem addAll_append (isOpen : Open words) (sound : r.Sound) :
    (∃ e, ∀ rest, r.addAll (words ++ rest) = .error e) ∨
      ∃ r' : Reading, r'.Sound ∧ ∀ rest, r.addAll (words ++ rest) = r'.addAll rest := by
  induction words generalizing r with
  | nil => exact .inr ⟨r, sound, fun rest => rfl⟩
  | cons word words ih =>
    obtain ⟨other, isOpen⟩ := not_or.1 (List.mem_cons.not.1 isOpen)
    obtain ⟨step, preserves, first⟩ := exists_step (Ne.symm other)
    simp only [List.cons_append, first]
    cases read : step r with
    | error e => exact .inl ⟨e, fun rest => rfl⟩
    | ok r' => exact ih isOpen (preserves _ _ sound read)

theorem sound_nothing : Sound {} := ⟨by simp, by simp, by simp, by simp⟩

theorem Sound.full (sound : r.Sound) (complete : ∀ a, r.settled ≠ .error (.valueMissing a)) :
    r.Full := by
  intro a pending
  have takes := sound.waits a pending
  refine complete a ?_
  rw [settled_of_pending pending]
  cases a <;> first | rfl | cases takes

def NamedItem : Item → Prop
  | .file path => path ≠ ""
  | .output _ path => path ≠ ""
  | _ => True

theorem namedItem_of_writable {i : Item} (h : i.Writable) : NamedItem i := by
  cases i <;> first | exact h.1 | trivial

theorem Sound.enterItem_of_repeats (sound : r.Sound) {i : Item} (again : i.Repeats r.given) :
    r.enterItem i = .error (.repeated i.argument) := by
  obtain ⟨output, recurse, verbose, -⟩ := sound
  cases i <;> simp_all [Item.Repeats, enterItem, entered, enter, Item.argument, Item.values]

theorem Sound.given_enterItem (sound : r.Sound) {i : Item} (named : NamedItem i)
    (fresh : ¬ i.Repeats r.given) : Reading.given <$> r.enterItem i = .ok (i.addTo r.given) := by
  obtain ⟨output, recurse, verbose, -⟩ := sound
  cases i <;> simp_all [Item.Repeats, enterItem, entered, enter, Item.argument, Item.values,
    NamedItem, Item.addTo, Functor.map, Except.map]

theorem Sound.given_enterFiles (sound : r.Sound) {files : List String}
    (named : ∀ path ∈ files, path ≠ "") :
    Reading.given <$> (files.map Item.file).foldlM enterItem r =
      .ok { r.given with files := r.given.files ++ files } := by
  induction files generalizing r with
  | nil => simp [Functor.map, Except.map, pure, Except.pure]
  | cons path files ih =>
    obtain ⟨first, rest⟩ := List.forall_mem_cons.1 named
    obtain ⟨r', entered, given⟩ :=
      map_eq_ok_iff.1 (sound.given_enterItem (i := .file path) first id)
    have onward := ih (preserves_entered _ _ sound entered) rest
    rw [List.map_cons, List.foldlM_cons, entered]
    change _ <$> List.foldlM enterItem r' _ = _
    rw [onward, given]
    simp [Item.addTo]

variable {front : List String} {g : Given} {text : String}
  {effect : Reading → Except UsageError Reading}

/-- Behind an accepted command line, words do to what was given what they do by themselves. -/
theorem addAll_of_accepted (isOpen : Open front) (h : read front = .ok g)
    (reads : Reads words effect) :
    ∃ r : Reading, r.Sound ∧ r.given = g ∧ ({} : Reading).addAll (front ++ words) = effect r := by
  obtain ⟨r, whole, rfl⟩ := map_eq_ok_iff.1 (read_eq_ok_iff.1 h)
  obtain ⟨e, refused⟩ | ⟨r', sound, onward⟩ := addAll_append isOpen sound_nothing
  · have empty := refused []
    rw [List.append_nil, whole] at empty
    cases empty
  · have settles : r'.settled = .ok r := by
      have empty := onward []
      rwa [List.append_nil, whole, addAll, eq_comm] at empty
    have full := sound.full fun a missing => by simp [settles] at missing
    refine ⟨r, preserves_settled _ _ sound settles, rfl, ?_⟩
    rw [onward, reads r' full, settles]
    rfl

theorem repeated_of_kind {e : UsageError} (h : e.kind = .conflict) : ∃ a, e = .repeated a := by
  cases e with
  | repeated a => exact ⟨a, rfl⟩
  | _ => cases h

theorem addAll_of_conflict (isOpen : Open front) (h : read front = .error ⟨.conflict, text⟩)
    (reads : Reads words effect) :
    ∃ a, ({} : Reading).addAll (front ++ words) = .error (.repeated a) := by
  obtain ⟨e, whole, shown⟩ := read_eq_error_iff.1 h
  obtain ⟨a, rfl⟩ := repeated_of_kind (congrArg Refusal.kind shown)
  refine ⟨a, ?_⟩
  obtain ⟨e, refused⟩ | ⟨r', sound, onward⟩ := addAll_append isOpen sound_nothing
  · have empty := refused []
    rw [List.append_nil, whole] at empty
    exact empty ▸ refused words
  · have settles : r'.settled = .error (.repeated a) := by
      have empty := onward []
      rwa [List.append_nil, whole, addAll, eq_comm] at empty
    have full := sound.full fun a missing => by simp [settles] at missing
    rw [onward, reads r' full, settles]
    rfl

end Reading

section

variable {front : List String} {g : Given} {i : Item} {text : String}

theorem read_item (isOpen : Open front) (h : read front = .ok g) (writable : i.Writable)
    (fresh : ¬ i.Repeats g) : read (front ++ i.words) = .ok (i.addTo g) := by
  obtain ⟨r, sound, rfl, whole⟩ := Reading.addAll_of_accepted isOpen h (Reading.reads_item writable)
  rw [read_eq_ok_iff, whole]
  exact sound.given_enterItem (Reading.namedItem_of_writable writable) fresh

theorem read_of_repeated {words : List String} {a : Argument}
    (h : ({} : Reading).addAll words = .error (.repeated a)) :
    ∃ text, read words = .error ⟨.conflict, text⟩ :=
  ⟨_, read_eq_error_iff.2 ⟨_, h, rfl⟩⟩

theorem read_collects : read.Collects where
  nothing := rfl
  file isOpen h writable := read_item isOpen h writable id
  exclude isOpen h writable := read_item isOpen h writable id
  output isOpen h writable fresh := read_item isOpen h writable (not_not.2 fresh)
  recurse short isOpen h fresh := read_item isOpen h trivial (by simpa [Item.Repeats] using fresh)
  verbose short isOpen h fresh := read_item isOpen h trivial (by simpa [Item.Repeats] using fresh)
  conflict isOpen h writable again := by
    obtain ⟨r, sound, rfl, whole⟩ :=
      Reading.addAll_of_accepted isOpen h (Reading.reads_item writable)
    exact read_of_repeated (whole.trans (sound.enterItem_of_repeats again))
  files isOpen h named := by
    obtain ⟨r, sound, rfl, whole⟩ := Reading.addAll_of_accepted isOpen h (Reading.reads_files _)
    rw [read_eq_ok_iff, whole]
    exact sound.given_enterFiles named
  item_after isOpen h writable := by
    obtain ⟨a, whole⟩ := Reading.addAll_of_conflict isOpen h (Reading.reads_item writable)
    exact read_of_repeated whole
  files_after isOpen h _ := by
    obtain ⟨a, whole⟩ := Reading.addAll_of_conflict isOpen h (Reading.reads_files _)
    exact read_of_repeated whole

end

end TagIndex.CommandLine
