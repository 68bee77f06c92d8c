import TagIndex.Program
import TagIndex.Proofs.CommandLine.Verbosity
import TagIndex.Proofs.Run.AllOrNothing
import TagIndex.Proofs.Run.TagFile

/-! How the program ends: with a command line that it refuses, with a run that fails, or with a
whole tag file. Asking for a log changes what it says on standard error and nothing else. Neither
the reader of the command line nor the look of the log matters for that. -/

namespace TagIndex
open Files CommandLine Text

variable {parse : String → Tree} {fs : FileSystem} {o : Options} {words : List String}
  {sink : Sink} {read : Reader} {render : Event → String} {g : Given}

theorem expandAll_verbose (files : View) (verbose : Bool) (paths : List String) :
    Options.expandAll { o with verbose } files paths = o.expandAll files paths := by
  have same (relative : String) :
      Options.shouldScan { o with verbose } relative = o.shouldScan relative := rfl
  induction paths with
  | nil => rfl
  | cons path paths ih => simp only [Options.expandAll, Options.expandOne, ih, collect_congr same]

theorem run_verbose (parse : String → Tree) (fs : FileSystem) (verbose : Bool) :
    run parse fs { o with verbose } sink = run parse fs o sink := by
  have inputs : Options.inputs { o with verbose } fs.view = o.inputs fs.view := by
    rw [Options.inputs, Options.inputs, expandAll_verbose]
  have gathered : gatherTags parse fs.view { o with verbose } = gatherTags parse fs.view o := by
    rw [gatherTags, gatherTags, inputs]
  cases result : (gatherTags parse fs.view o).result with
  | error e => rw [run_of_error result, run_of_error (gathered ▸ result), gathered]
  | ok tags =>
    rw [run_of_ok result, run_of_ok (gathered ▸ result), gathered]
    rfl

def Outcome.exit (render : Event → String) (verbose : Bool) (outcome : Outcome) : Exit :=
  let log := logText render verbose outcome.log
  match outcome.result with
  | .ok () => ⟨0, outcome.output, log, outcome.files⟩
  | .error e => ⟨1, outcome.output, log ++ (e.message ++ "\n"), outcome.files⟩

theorem output_exit (outcome : Outcome) (verbose : Bool) :
    (outcome.exit render verbose).output = outcome.output := by
  unfold Outcome.exit
  split <;> rfl

theorem files_exit (outcome : Outcome) (verbose : Bool) :
    (outcome.exit render verbose).files = outcome.files := by
  unfold Outcome.exit
  split <;> rfl

theorem run_complain (text : String) (w : World) : ((World.host sink).complain text).run w =
    ((), { w with errors := w.errors ++ text }) := rfl

theorem program_of_ok (h : read words = .ok g) :
    program parse fs words sink read render =
      (run parse fs g.options sink).exit render g.verbose := by
  rw [program, Host.program, h]
  simp only [StateT.run_bind, run_host, run_complain, String.empty_append]
  cases gathered : (gatherTags parse fs.view g.options).result with
  | error e =>
    rw [run_of_error gathered]
    rfl
  | ok tags =>
    have log : (delivered fs g.options sink (gatherTags parse fs.view g.options).log tags).log =
        (gatherTags parse fs.view g.options).log := log_delivered _ tags
    rw [run_of_ok gathered]
    simp only [run_deliver (gatherTags parse fs.view g.options).log]
    generalize delivered fs g.options sink _ tags = outcome at log ⊢
    obtain ⟨_, result, output, files⟩ := outcome
    obtain rfl : _ = _ := log
    cases result <;> rfl

theorem program_of_help {text : String} (h : read words = .error ⟨.help, text⟩) :
    program parse fs words sink read render =
      ⟨0, (sink.write [Utf8.encode text.toList]).bytes, "", fs⟩ := by
  rw [program, Host.program, h]
  rfl

theorem program_of_refused {refusal : Refusal} (h : read words = .error refusal)
    (other : refusal.kind ≠ .help) :
    program parse fs words sink read render = ⟨2, [], refusal.text, fs⟩ := by
  rw [program, Host.program, h]
  dsimp only
  rw [if_neg other]
  simp [World.host]
  rfl

structure CommandLine.Given.Sends (g : Given) (fs : FileSystem) (exit : Exit)
    (bytes : List UInt8) : Prop where
  printed : g.output = none ∨ g.output = some "-" → exit.output = bytes ∧ exit.files = fs
  stored : ∀ path, g.output = some path → path ≠ "-" →
    exit.output = [] ∧ exit.files.read path = .ok bytes

structure Exit.Reports (exit : Exit) (parse : String → Tree) (fs : FileSystem)
    (words : List String) (sink : Sink) (read : Reader) (render : Event → String) : Prop where
  code : exit.code = 2 ∨ exit.code = 1 ∨ exit.code = 0
  refused : exit.code = 2 ↔ ∃ refusal, read words = .error refusal ∧ refusal.kind ≠ .help
  untouched : ∀ refusal, read words = .error refusal → refusal.kind ≠ .help →
    exit.output = [] ∧ exit.errors = refusal.text ∧ exit.files = fs
  failed : exit.code = 1 ↔
    ∃ g e, read words = .ok g ∧ (run parse fs g.options sink).result = .error e
  message : ∀ g e, read words = .ok g → (run parse fs g.options sink).result = .error e →
    exit.errors = logText render g.verbose (run parse fs g.options sink).log ++ e.message ++ "\n"
  silent : ∀ g e, read words = .ok g → (run parse fs g.options sink).result = .error e →
    (∀ cause, e ≠ .io cause) → exit.output = [] ∧ exit.files = fs
  cut : ∀ g cause, read words = .ok g →
    (run parse fs g.options sink).result = .error (.io cause) → cause = sink.failure ∧
      ∃ bytes part, g.options.IsTagFile parse fs bytes ∧ part <+: bytes ∧ part ≠ bytes ∧
        g.Sends fs exit part
  help : ∀ text, read words = .error ⟨.help, text⟩ →
    exit.code = 0 ∧ exit.errors = "" ∧ exit.files = fs ∧
      exit.output <+: Utf8.encode text.toList
  done : exit.code = 0 → (∃ text, read words = .error ⟨.help, text⟩) ∨
    ∃ g bytes, read words = .ok g ∧ g.options.IsTagFile parse fs bytes ∧ g.Sends fs exit bytes

theorem sends_of_delivered {outcome : Outcome} {bytes : List UInt8}
    (h : g.options.Delivered fs outcome bytes) (render : Event → String) (verbose : Bool) :
    g.Sends fs (outcome.exit render verbose) bytes := by
  constructor
  · intro standard
    have nowhere : g.options.output = none := by
      obtain given | given := standard <;> simp [Given.options, given, Option.filter]
    rw [output_exit, files_exit]
    simpa only [Options.Delivered, nowhere] using h
  · intro path named other
    have somewhere : g.options.output = some path := by
      simp [Given.options, named, other, Option.filter]
    rw [output_exit, files_exit]
    simpa only [Options.Delivered, somewhere] using h

theorem reports_of_success (h : read words = .ok g)
    (succeeds : (run parse fs g.options sink).result = .ok ()) :
    ((run parse fs g.options sink).exit render g.verbose).Reports parse fs words sink read
      render := by
  obtain ⟨bytes, whole, delivered⟩ := delivered_of_ok succeeds
  have sends := sends_of_delivered delivered render g.verbose
  rw [Outcome.exit, succeeds] at sends ⊢
  refine ⟨by simp, by simp [h], by simp [h], by simp [h, succeeds], ?_, ?_, ?_, by simp [h],
    fun _ => .inr ⟨g, bytes, h, whole, sends⟩⟩
  all_goals
    intro g' e h' fails
    rw [← Except.ok.inj (h.symm.trans h'), succeeds] at fails
    cases fails

theorem reports_of_failure {e : Error} (h : read words = .ok g)
    (fails : (run parse fs g.options sink).result = .error e) :
    ((run parse fs g.options sink).exit render g.verbose).Reports parse fs words sink read
      render := by
  have exit : (run parse fs g.options sink).exit render g.verbose =
      ⟨1, (run parse fs g.options sink).output,
        logText render g.verbose (run parse fs g.options sink).log ++ (e.message ++ "\n"),
        (run parse fs g.options sink).files⟩ := by
    rw [Outcome.exit, fails]
  refine ⟨by simp [exit], by simp [exit, h], by simp [h], by simp [exit, h, fails], ?_, ?_, ?_,
    by simp [h], by simp [exit]⟩
  · intro g' e' h' fails'
    obtain rfl := Except.ok.inj (h.symm.trans h')
    rw [exit, Except.error.inj (fails'.symm.trans fails), String.append_assoc]
  · intro g' e' h' fails' other
    obtain rfl := Except.ok.inj (h.symm.trans h')
    have untouched := untouched_of_error fails' (other sink.failure)
    rw [exit]
    exact ⟨untouched.output, untouched.files⟩
  · intro g' cause h' full
    obtain rfl := Except.ok.inj (h.symm.trans h')
    obtain ⟨same, bytes, part, whole, begins, short, delivered⟩ := delivered_of_full full
    exact ⟨same, bytes, part, whole, begins, short, sends_of_delivered delivered render g.verbose⟩

theorem reports_program (parse : String → Tree) (fs : FileSystem) (words : List String)
    (sink : Sink) (read : Reader) (render : Event → String) :
    (program parse fs words sink read render).Reports parse fs words sink read render := by
  cases asked : read words with
  | ok g =>
    rw [program_of_ok asked]
    cases result : (run parse fs g.options sink).result with
    | ok _ => exact reports_of_success asked result
    | error e => exact reports_of_failure asked result
  | error refusal =>
    obtain ⟨kind, text⟩ := refusal
    by_cases help : kind = .help
    · subst help
      have begins : (sink.write [Utf8.encode text.toList]).bytes <+: Utf8.encode text.toList := by
        simpa using sink.write_prefix [Utf8.encode text.toList]
      rw [program_of_help asked]
      constructor <;> simp [asked, begins]
    · rw [program_of_refused asked help]
      constructor <;> simp [asked, help]

structure Exit.Agrees (a b : Exit) : Prop where
  code : b.code = a.code
  output : b.output = a.output
  files : b.files = a.files

theorem agrees_exit (outcome : Outcome) (verbose verbose' : Bool) :
    (outcome.exit render verbose).Agrees (outcome.exit render verbose') := by
  unfold Outcome.exit
  split <;> exact ⟨rfl, rfl, rfl⟩

theorem agrees_verbosely (flag : read.TakesFlag) (asked : read words = .ok g)
    (quiet : g.verbose = false) : (program parse fs words sink read render).Agrees
      (program parse fs ("-v" :: words) sink read render) := by
  have same : run parse fs ({ g with verbose := true } : Given).options sink =
      run parse fs g.options sink := run_verbose (o := g.options) parse fs true
  rw [program_of_ok asked, program_of_ok (flag.given asked quiet), same]
  exact agrees_exit _ _ _

/-- The exit code tells whether the command line was refused, a run failed or all is well. Standard
output is empty unless all is well, and then holds nothing but the whole tag file, if that was to go
there; if there was no room for all of it, the beginning of the tag file is where the whole was to
go, and the run failed. Asking for a log in front of a command line that asks for none changes
nothing but standard error. -/
theorem program_reports (parse : String → Tree) (fs : FileSystem) (words : List String)
    (sink : Sink) (read : Reader) (render : Event → String) :
    (program parse fs words sink read render).Reports parse fs words sink read render ∧
    (read.TakesFlag →
      (∀ g, read words = .ok g → g.verbose = false →
        (program parse fs words sink read render).Agrees
          (program parse fs ("-v" :: words) sink read render)) ∧
      ∀ text, read words = .error ⟨.help, text⟩ →
        (∀ text', read ("-v" :: words) ≠ .error ⟨.conflict, text'⟩) →
        (program parse fs words sink read render).Agrees
          (program parse fs ("-v" :: words) sink read render)) := by
  refine ⟨reports_program parse fs words sink read render, fun flag =>
    ⟨fun g => agrees_verbosely flag, fun text help once => ?_⟩⟩
  obtain help' | ⟨text', again⟩ := flag.help help
  · rw [program_of_help help, program_of_help help']
    exact ⟨rfl, rfl, rfl⟩
  · exact absurd again (once text')

theorem program_reports_scanned :
    CommandLine.read.TakesFlag ∧ CommandLine.read ["a.go"] = .ok { files := ["a.go"] } ∧
    (program (fun _ => Sample.tree) Sample.files ["a.go"]).Reports (fun _ => Sample.tree)
      Sample.files ["a.go"] .unlimited CommandLine.read Event.line ∧
    (program (fun _ => Sample.tree) Sample.files ["a.go"]).Agrees
      (program (fun _ => Sample.tree) Sample.files ["-v", "a.go"]) := by
  have asked : CommandLine.read ["a.go"] = .ok { files := ["a.go"] } := by decide
  obtain ⟨reports, flag⟩ := program_reports (fun _ => Sample.tree) Sample.files ["a.go"]
    .unlimited CommandLine.read Event.line
  exact ⟨read_takesFlag, asked, reports, (flag read_takesFlag).1 _ asked rfl⟩

/-- A pipe that is closed after five bytes. -/
def Sample.closing : Sink := ⟨some 5, "Broken pipe (os error 32)"⟩

theorem output_of_closed_pipe : ¬ ∀ (parse : String → Tree) (fs : FileSystem)
    (words : List String) (sink : Sink), (program parse fs words sink).code = 1 →
      (program parse fs words sink).output = [] := by
  intro empty
  have asked : CommandLine.read ["a.go"] = .ok { files := ["a.go"] } := by decide
  have gathered := (result_gatherTags_eq_ok_iff (o := { files := ["a.go"] })).2
    ⟨["a.go"], _, rfl, .cons Sample.scanned_tree .nil, rfl⟩
  have exit : program (fun _ => Sample.tree) Sample.files ["a.go"] Sample.closing =
      (run (fun _ => Sample.tree) Sample.files { files := ["a.go"] } Sample.closing).exit
        Event.line false :=
    program_of_ok asked
  have output := empty (fun _ => Sample.tree) Sample.files ["a.go"] Sample.closing
  rw [exit, run_of_ok gathered] at output
  exact absurd (output rfl) (by decide)

end TagIndex
