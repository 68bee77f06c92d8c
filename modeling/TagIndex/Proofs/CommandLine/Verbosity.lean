import TagIndex.Proofs.CommandLine.Words

/-! Asking for a log in front of a command line. Every word is read as before, but for the one
option, until the command line asks for a log itself, which is then one time too many. -/

namespace TagIndex.CommandLine
namespace Reading

/-- The same reading after a first word that asks for a log. -/
def verbosely (r : Reading) : Reading :=
  { r with given := { r.given with verbose := true }, used := .verbose :: r.used }

inductive Alike : Except UsageError Reading → Except UsageError Reading → Prop
  | ok (r : Reading) : Alike (.ok r) (.ok r.verbosely)
  | error {e e' : UsageError} (same : e' = .help ↔ e = .help) : Alike (.error e) (.error e')
  | again {x : Except UsageError Reading} (loud : ∀ r, x = .ok r → r.given.verbose = true) :
      Alike x (.error (.repeated .verbose))

structure Indifferent (step : Reading → Except UsageError Reading) : Prop where
  alike : ∀ r, Alike (step r) (step r.verbosely)
  loud : ∀ r r', step r = .ok r' → r.given.verbose = true → r'.given.verbose = true

variable {r : Reading} {a : Argument} {values : List String}

theorem markUsed_verbosely (other : a ≠ .verbose) :
    r.verbosely.markUsed a = (r.markUsed a).verbosely := by
  unfold markUsed verbosely
  by_cases used : a ∈ r.used <;> simp [used, other]

theorem enter_verbosely (other : a ≠ .verbose) : r.verbosely.enter a values =
    ((r.enter a values).1.verbosely, (r.enter a values).2) := by
  have used : a ∈ r.verbosely.used ↔ a ∈ r.used := by simp [verbosely, other]
  have shorter : { r.verbosely with used := r.verbosely.used.filter (· ≠ a) } =
      verbosely { r with used := r.used.filter (· ≠ a) } := by
    simp [verbosely, Ne.symm other]
  have marked := markUsed_verbosely (r := r) other
  cases a with
  | verbose => exact absurd rfl other
  | help => rfl
  | files | exclude =>
    simp only [enter, marked]
    split <;> rfl
  | recurse =>
    simp only [enter, List.contains_iff_mem, used, shorter, marked]
    split <;> rfl
  | output =>
    cases values with
    | nil => rfl
    | cons value values =>
      by_cases given : .output ∈ r.used
      · simp only [enter, List.contains_iff_mem, used, given, if_true, shorter]
      · simp only [enter, List.contains_iff_mem, used, given, if_false, marked]
        rfl

theorem verbose_of_entered {r' : Reading} (h : r.entered a values = .ok r') :
    r'.given.verbose = true ↔ a = .verbose ∨ r.given.verbose = true := by
  unfold entered enter markUsed at h
  cases a <;> grind

theorem indifferent_entered : Indifferent (·.entered a values) where
  loud _ _ h before := (verbose_of_entered h).2 (.inr before)
  alike r := by
    by_cases asks : a = .verbose
    · subst asks
      have again : r.verbosely.entered .verbose values = .error (.repeated .verbose) := by
        simp [entered, enter, verbosely]
      rw [again]
      exact .again fun _ h => (verbose_of_entered h).2 (.inl rfl)
    · simp only [entered, enter_verbosely asks]
      split <;> simp_all [Alike.ok, Alike.error]

theorem Indifferent.bind {f g : Reading → Except UsageError Reading} (first : Indifferent f)
    (second : Indifferent g) : Indifferent fun r => f r >>= g where
  loud r r' h before := by
    obtain ⟨middle, read, rest⟩ := bind_eq_ok_iff.1 h
    exact second.loud middle r' rest (first.loud r middle read before)
  alike r := by
    have middle := first.alike r
    generalize f r = x, f r.verbosely = y at middle
    cases middle with
    | ok r => exact second.alike r
    | error same => exact .error same
    | again loud =>
      refine .again fun r' h => ?_
      obtain ⟨middle, read, rest⟩ := bind_eq_ok_iff.1 h
      exact second.loud middle r' rest (loud middle read)

theorem indifferent_ok : Indifferent .ok where
  loud := by
    rintro r _ ⟨⟩ before
    exact before
  alike := .ok

theorem indifferent_error {e : Reading → UsageError} (other : ∀ r, e r ≠ .help) :
    Indifferent fun r => .error (e r) :=
  ⟨fun _ => .error (by simp [other]), fun _ _ h => nomatch h⟩

theorem indifferent_wait (argument : Option (Argument × List String)) :
    Indifferent fun r => .ok { r with pending := argument } where
  loud := by
    rintro r _ ⟨⟩ before
    exact before
  alike r := .ok { r with pending := argument }

theorem Indifferent.of_ways {f : Reading → Except UsageError Reading} (ways : ∀ r, ∃ step,
    Indifferent step ∧ f r = step r ∧ f r.verbosely = step r.verbosely) : Indifferent f where
  alike r := by
    obtain ⟨step, indifferent, here, there⟩ := ways r
    rw [here, there]
    exact indifferent.alike r
  loud r r' h := by
    obtain ⟨step, indifferent, here, -⟩ := ways r
    rw [here] at h
    exact indifferent.loud r r' h

theorem indifferent_settled : Indifferent settled := by
  refine .of_ways fun r => ?_
  cases pending : r.pending with
  | none => exact ⟨_, indifferent_ok, settled_of_none pending, settled_of_none pending⟩
  | some argument =>
    exact ⟨_, (indifferent_wait none).bind indifferent_entered, settled_of_pending pending,
      settled_of_pending (r := r.verbosely) pending⟩

theorem indifferent_add : Indifferent (·.add a values) :=
  indifferent_settled.bind indifferent_entered

theorem indifferent_await : Indifferent (·.await a) :=
  indifferent_settled.bind (indifferent_wait (some (a, [])))

theorem indifferent_addFile (path : String) : Indifferent (·.addFile path) := by
  refine .of_ways fun r => ?_
  by_cases files : ∃ paths, r.pending = some (.files, paths)
  · obtain ⟨paths, pending⟩ := files
    exact ⟨_, indifferent_wait _, addFile_of_files pending,
      addFile_of_files (r := r.verbosely) pending⟩
  · exact ⟨_, indifferent_settled.bind (indifferent_wait _), addFile_of_other files,
      addFile_of_other (r := r.verbosely) files⟩

theorem indifferent_addWord (word : String) : Indifferent (·.addWord word) := by
  refine .of_ways fun r => ?_
  by_cases full : r.Full
  · exact ⟨_, indifferent_addFile word, addWord_eq full, addWord_eq (r := r.verbosely) full⟩
  · obtain ⟨a, pending⟩ : ∃ a, r.pending = some (a, []) := by simpa [Full] using full
    exact ⟨_, indifferent_wait _, addWord_of_waiting pending,
      addWord_of_waiting (r := r.verbosely) pending⟩

theorem indifferent_addLong (word : List Char) : Indifferent (·.addLong word) := by
  unfold addLong
  dsimp only
  split
  · split
    · exact indifferent_add
    · exact indifferent_error (by simp)
  · split
    · exact indifferent_await
    · exact indifferent_add
  · exact indifferent_error (by simp)

theorem indifferent_addLetters (letters : List Char) : Indifferent (·.addLetters letters) := by
  induction letters with
  | nil => exact indifferent_ok
  | cons c rest ih =>
    unfold addLetters
    split
    · exact indifferent_error (by simp)
    · split
      · split
        · exact indifferent_await
        · exact indifferent_add
        · exact indifferent_add
      · exact indifferent_add.bind ih

theorem indifferent_addFiles (files : List String) : Indifferent (files.foldlM addFile ·) := by
  induction files with
  | nil => exact indifferent_ok
  | cons path files ih => exact (indifferent_addFile path).bind ih

theorem indifferent_addAll (words : List String) : Indifferent (·.addAll words) := by
  induction words with
  | nil => exact indifferent_settled
  | cons word words ih =>
    unfold addAll
    split
    · exact (indifferent_addFiles words).bind indifferent_settled
    · exact (indifferent_addLong _).bind ih
    · exact (indifferent_addLetters _).bind ih
    · exact (indifferent_addWord word).bind ih

end Reading

theorem alike_addAll (words : List String) :
    Reading.Alike (({} : Reading).addAll words) (({} : Reading).addAll ("-v" :: words)) := by
  have first : ({} : Reading).addAll ("-v" :: words) = (Reading.verbosely {}).addAll words :=
    Reading.addAll_letter (a := .verbose) (c := 'v') rfl rfl
  rw [first]
  exact (Reading.indifferent_addAll words).alike {}

/-- What is documented of a flag that is put in front of a command line. It changes nothing else,
and does not keep help from being given unless it comes a second time. -/
structure Reader.TakesFlag (read : Reader) : Prop where
  given {words : List String} {g : Given} : read words = .ok g → g.verbose = false →
    read ("-v" :: words) = .ok { g with verbose := true }
  help {words : List String} {text : String} : read words = .error ⟨.help, text⟩ →
    read ("-v" :: words) = .error ⟨.help, text⟩ ∨
      ∃ text', read ("-v" :: words) = .error ⟨.conflict, text'⟩

theorem read_eq_ok_iff {words : List String} {g : Given} :
    read words = .ok g ↔ Reading.given <$> ({} : Reading).addAll words = .ok g := by
  rw [read, given]
  cases Reading.given <$> ({} : Reading).addAll words <;> simp [Except.mapError]

theorem read_eq_error_iff {words : List String} {refusal : Refusal} :
    read words = .error refusal ↔
      ∃ e, ({} : Reading).addAll words = .error e ∧ e.refusal = refusal := by
  rw [read, given]
  cases ({} : Reading).addAll words <;> simp [Except.mapError, Functor.map, Except.map]

theorem eq_help_of_kind {e : UsageError} (h : e.kind = .help) : e = .help := by
  cases e <;> first | rfl | cases h

theorem read_takesFlag : read.TakesFlag where
  given {words g} h quiet := by
    obtain ⟨r, entered, rfl⟩ := map_eq_ok_iff.1 (read_eq_ok_iff.1 h)
    have alike := alike_addAll words
    rw [entered] at alike
    generalize again : ({} : Reading).addAll ("-v" :: words) = y at alike
    cases alike with
    | ok => exact read_eq_ok_iff.2 (map_eq_ok_iff.2 ⟨_, again, rfl⟩)
    | again loud => exact absurd (loud r rfl) (by simpa using quiet)
  help {words text} h := by
    obtain ⟨e, refused, shown⟩ := read_eq_error_iff.1 h
    obtain rfl := eq_help_of_kind (congrArg Refusal.kind shown)
    have alike := alike_addAll words
    rw [refused] at alike
    generalize again : ({} : Reading).addAll ("-v" :: words) = y at alike
    cases alike with
    | error same =>
      obtain rfl := same.2 rfl
      exact .inl (read_eq_error_iff.2 ⟨_, again, shown⟩)
    | again => exact .inr ⟨_, read_eq_error_iff.2 ⟨_, again, rfl⟩⟩

end TagIndex.CommandLine
