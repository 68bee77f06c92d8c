import TagIndex.CommandLine.Parse
import TagIndex.Proofs.CommandLine.Items
import TagIndex.Proofs.Data.Traversal
import Mathlib.Data.List.TakeWhile

/-! What the words of an item do. A value may come in a word of its own, and files are kept until it
is known that no more of them follow; but whatever waits is entered before anything else is, so that
in the end each item is entered by itself. -/

namespace TagIndex.CommandLine

def Item.values : Item → List String
  | .file path => [path]
  | .exclude _ text => [text]
  | .output _ path => [path]
  | .recurse _ => []
  | .verbose _ => []

namespace Reading

def entered (r : Reading) (a : Argument) (values : List String) : Except UsageError Reading :=
  match r.enter a values with
  | (r, none) => .ok r
  | (_, some e) => .error e

/-- What is pending is not without a value. -/
def Full (r : Reading) : Prop := ∀ a, r.pending ≠ some (a, [])

/-- The words, read after whatever is pending, do this. -/
def Reads (words : List String) (effect : Reading → Except UsageError Reading) : Prop :=
  ∀ r : Reading, r.Full → r.addAll words = r.settled >>= effect

variable {r : Reading} {a : Argument} {values words : List String} {word : String}

theorem add_eq : r.add a values = r.settled >>= (·.entered a values) := rfl

theorem await_eq : r.await a = r.settled >>= fun r => .ok { r with pending := some (a, []) } := rfl

theorem settled_of_pending (h : r.pending = some (a, values)) :
    r.settled = { r with pending := none }.entered a values := by
  rw [settled, settle, h]
  rfl

theorem settled_of_none (h : r.pending = none) : r.settled = .ok r := by
  rw [settled, settle, h]

theorem addAll_plain (plain : IsPlainWord word) :
    r.addAll (word :: words) = r.addWord word >>= (·.addAll words) := by
  rw [addAll]
  split <;> simp_all [IsPlainWord]

theorem addAll_long {name : List Char} (spelled : word.toList = '-' :: '-' :: name)
    (more : name ≠ []) : r.addAll (word :: words) = r.addLong name >>= (·.addAll words) := by
  rw [addAll]
  split <;> simp_all

theorem pending_enter : (r.enter a values).1.pending = r.pending := by
  unfold enter markUsed
  cases a <;> grind

theorem pending_entered {r' : Reading} (h : r.entered a values = .ok r') :
    r'.pending = r.pending := by
  have kept : (r.enter a values).1.pending = r.pending := pending_enter
  rw [← kept]
  unfold entered at h
  split at h
  · rename_i entered
    rw [entered, Except.ok.inj h]
  · cases h

theorem pending_settled {r' : Reading} (h : r.settled = .ok r') : r'.pending = none := by
  cases pending : r.pending with
  | none =>
    rw [settled_of_none pending] at h
    exact Except.ok.inj h ▸ pending
  | some argument =>
    rw [settled_of_pending pending] at h
    exact pending_entered h

theorem mem_used_markUsed {b : Argument} : b ∈ (r.markUsed a).used ↔ b ∈ r.used ∨ b = a := by
  unfold markUsed
  split
  · rename_i used
    have used : a ∈ r.used := List.contains_iff_mem.1 used
    exact ⟨.inl, fun h => h.elim id fun same => same ▸ used⟩
  · simp

theorem markUsed_of_mem (h : a ∈ r.used) : r.markUsed a = r := by
  rw [markUsed, if_pos (List.contains_iff_mem.2 h)]

theorem entered_files (named : "" ∉ values) : r.entered .files values =
    .ok { r.markUsed .files with
      given := { r.given with files := r.given.files ++ values } } := by
  simp [entered, enter, named]

theorem entered_files_unnamed (unnamed : "" ∈ values) :
    r.entered .files values = .error (.valueMissing .files) := by
  simp [entered, enter, unnamed]

theorem entered_files_append {paths : List String} :
    r.entered .files (values ++ paths) = r.entered .files values >>= (·.entered .files paths) := by
  by_cases first : "" ∈ values
  · rw [entered_files_unnamed first, entered_files_unnamed (List.mem_append_left _ first)]
    rfl
  by_cases second : "" ∈ paths
  · rw [entered_files first, entered_files_unnamed (List.mem_append_right _ second)]
    exact (entered_files_unnamed second).symm
  · have both : "" ∉ values ++ paths := by simp [first, second]
    have marked (o : Given) : { r.markUsed .files with given := o }.markUsed .files =
        { r.markUsed .files with given := o } := markUsed_of_mem (mem_used_markUsed.2 (.inr rfl))
    rw [entered_files both, entered_files first]
    change _ = entered _ _ _
    rw [entered_files second, marked, List.append_assoc]

theorem addFile_of_files {path : String} (h : r.pending = some (.files, values)) :
    r.addFile path = .ok { r with pending := some (.files, values ++ [path]) } := by
  rw [addFile, h]

theorem addFile_of_other {path : String} (h : ¬ ∃ paths, r.pending = some (.files, paths)) :
    r.addFile path = r.settled >>= fun r => .ok { r with pending := some (.files, [path]) } := by
  unfold addFile
  split
  · exact absurd ⟨_, ‹_›⟩ h
  · rfl

theorem settled_addFile (path : String) :
    r.addFile path >>= settled = r.settled >>= (·.entered .files [path]) := by
  by_cases files : ∃ paths, r.pending = some (.files, paths)
  · obtain ⟨paths, pending⟩ := files
    rw [addFile_of_files pending, settled_of_pending pending]
    change settled _ = _
    rw [settled_of_pending rfl]
    exact entered_files_append
  · rw [addFile_of_other files]
    cases read : r.settled with
    | error e => rfl
    | ok r' =>
      have idle := pending_settled read
      change settled _ = entered _ _ _
      rw [settled_of_pending rfl, ← idle]

theorem addWord_of_waiting (h : r.pending = some (a, [])) :
    r.addWord word = .ok { r with pending := some (a, [word]) } := by
  rw [addWord, h]

theorem addWord_eq (full : r.Full) : r.addWord word = r.addFile word := by
  unfold addWord
  split
  · exact absurd ‹_› (full _)
  · rfl

theorem settled_add : r.add a values >>= settled = r.settled >>= (·.entered a values) := by
  rw [add_eq]
  cases read : r.settled with
  | error e => rfl
  | ok r' =>
    change r'.entered a values >>= settled = r'.entered a values
    cases entered : r'.entered a values with
    | error e => rfl
    | ok r'' => exact settled_of_none ((pending_entered entered).trans (pending_settled read))

theorem reads_file (plain : IsPlainWord word) : Reads [word] (·.entered .files [word]) := by
  intro r full
  rw [addAll_plain plain, addWord_eq full]
  exact settled_addFile word

theorem addAll_of_await (plain : IsPlainWord word) (r : Reading) :
    r.await a >>= (·.addAll [word]) = r.settled >>= (·.entered a [word]) := by
  rw [await_eq]
  cases read : r.settled with
  | error e => rfl
  | ok r' =>
    change addAll { r' with pending := some (a, []) } [word] = r'.entered a [word]
    rw [addAll_plain plain]
    change settled { r' with pending := some (a, [word]) } = _
    rw [settled_of_pending rfl, ← pending_settled read]

section

variable {name value : String} {c : Char}

theorem ofLongName?_eq (named : a.longName? = some name) :
    Argument.ofLongName? name = some a ∧ '=' ∉ name.toList ∧ name.toList ≠ [] := by
  cases a <;> simp only [Argument.longName?, Option.some.injEq, reduceCtorEq] at named <;>
    subst named <;> decide

theorem ofLetter?_eq (named : a.letter? = some c) :
    Argument.ofLetter? c = some a ∧ c ≠ '-' := by
  cases a <;> simp only [Argument.letter?, Option.some.injEq, reduceCtorEq] at named <;>
    subst named <;> decide

theorem differs_of_name (whole : '=' ∉ name.toList) :
    ∀ c ∈ name.toList, decide (c ≠ '=') = true := by
  intro c mem
  simpa using ne_of_mem_of_not_mem mem whole

theorem addLong_attached (named : a.longName? = some name) (takes : a.takesValue = true) :
    r.addLong (name.toList ++ '=' :: value.toList) = r.add a [value] := by
  obtain ⟨known, whole, -⟩ := ofLongName?_eq named
  have before : (name.toList ++ '=' :: value.toList).takeWhile (· ≠ '=') = name.toList := by
    rw [List.takeWhile_append_of_pos (differs_of_name whole)]
    simp
  have behind : (name.toList ++ '=' :: value.toList).dropWhile (· ≠ '=') = '=' :: value.toList := by
    rw [List.dropWhile_append_of_pos (differs_of_name whole)]
    simp
  simp only [addLong, before, behind, String.ofList_toList, known, takes, if_true]

theorem addLong_alone (named : a.longName? = some name) :
    r.addLong name.toList = if a.takesValue then r.await a else r.add a [] := by
  obtain ⟨known, whole, -⟩ := ofLongName?_eq named
  have all : name.toList.takeWhile (· ≠ '=') = name.toList :=
    List.takeWhile_eq_self_iff.2 (differs_of_name whole)
  have nothing : name.toList.dropWhile (· ≠ '=') = [] :=
    List.dropWhile_eq_nil_iff.2 (differs_of_name whole)
  simp only [addLong, all, nothing, String.ofList_toList, known]

theorem addAll_letters {letters : List Char} (spelled : word.toList = '-' :: c :: letters)
    (other : c ≠ '-') :
    r.addAll (word :: words) = r.addLetters (c :: letters) >>= (·.addAll words) := by
  rw [addAll, spelled]
  split <;> simp_all

theorem addAll_letter (named : a.letter? = some c) (spelled : word.toList = ['-', c]) :
    r.addAll (word :: words) =
      (if a.takesValue then r.await a else r.add a []) >>= (·.addAll words) := by
  obtain ⟨known, other⟩ := ofLetter?_eq named
  have letters : r.addLetters [c] = if a.takesValue then r.await a else r.add a [] := by
    simp only [addLetters, known]
    split
    · rfl
    · exact bind_pure _
  rw [addAll_letters spelled other, letters]

theorem reads_attached (named : a.longName? = some name) (takes : a.takesValue = true)
    (spelled : word.toList = '-' :: '-' :: (name.toList ++ '=' :: value.toList)) :
    Reads [word] (·.entered a [value]) := by
  intro r _
  rw [addAll_long spelled (by simp), addLong_attached named takes]
  exact settled_add

theorem reads_long (named : a.longName? = some name) (takes : a.takesValue = false)
    (spelled : word.toList = '-' :: '-' :: name.toList) : Reads [word] (·.entered a []) := by
  intro r _
  rw [addAll_long spelled (ofLongName?_eq named).2.2, addLong_alone named, takes]
  exact settled_add

theorem reads_long_then (named : a.longName? = some name) (takes : a.takesValue = true)
    (spelled : word.toList = '-' :: '-' :: name.toList) (plain : IsPlainWord value) :
    Reads [word, value] (·.entered a [value]) := by
  intro r _
  rw [addAll_long spelled (ofLongName?_eq named).2.2, addLong_alone named, takes]
  exact addAll_of_await plain r

theorem reads_letter (named : a.letter? = some c) (takes : a.takesValue = false)
    (spelled : word.toList = ['-', c]) : Reads [word] (·.entered a []) := by
  intro r _
  rw [addAll_letter named spelled, takes]
  exact settled_add

theorem reads_letter_then (named : a.letter? = some c) (takes : a.takesValue = true)
    (spelled : word.toList = ['-', c]) (plain : IsPlainWord value) :
    Reads [word, value] (·.entered a [value]) := by
  intro r _
  rw [addAll_letter named spelled, takes]
  exact addAll_of_await plain r

end

def enterItem (r : Reading) (i : Item) : Except UsageError Reading := r.entered i.argument i.values

theorem reads_item {i : Item} (writable : i.Writable) : Reads i.words (·.enterItem i) := by
  cases i with
  | file path => exact reads_file writable.2
  | exclude attached text =>
    cases attached with
    | true => exact reads_attached (a := .exclude) rfl rfl (by simp)
    | false => exact reads_long_then (a := .exclude) rfl rfl rfl (.inr writable)
  | output spelling path =>
    cases spelling with
    | attached => exact reads_attached (a := .output) rfl rfl (by simp)
    | long => exact reads_long_then (a := .output) rfl rfl rfl writable.2
    | letter => exact reads_letter_then (a := .output) rfl rfl rfl writable.2
  | recurse short =>
    cases short with
    | true => exact reads_letter (a := .recurse) rfl rfl rfl
    | false => exact reads_long (a := .recurse) rfl rfl rfl
  | verbose short =>
    cases short with
    | true => exact reads_letter (a := .verbose) rfl rfl rfl
    | false => exact reads_long (a := .verbose) rfl rfl rfl

theorem settled_foldlM_addFile (files : List String) (r : Reading) :
    files.foldlM addFile r >>= settled =
      r.settled >>= fun r => (files.map Item.file).foldlM enterItem r := by
  induction files generalizing r with
  | nil => exact (bind_pure r.settled).symm
  | cons path files ih =>
    rw [List.foldlM_cons, bind_assoc]
    calc r.addFile path >>= (fun r' => files.foldlM addFile r' >>= settled)
        = r.addFile path >>= fun r' => r'.settled >>= fun r =>
            (files.map Item.file).foldlM enterItem r := by simp only [ih]
      _ = (r.addFile path >>= settled) >>= fun r => (files.map Item.file).foldlM enterItem r :=
          (bind_assoc ..).symm
      _ = _ := by
          rw [settled_addFile, bind_assoc]
          rfl

theorem reads_files (files : List String) :
    Reads ("--" :: files) fun r => (files.map Item.file).foldlM enterItem r := by
  intro r _
  rw [← settled_foldlM_addFile, addAll]
  rfl

end Reading
end TagIndex.CommandLine
