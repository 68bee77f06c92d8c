import TagIndex.Proofs.CommandLine.Collecting
import Mathlib.Data.List.Induction

/-! Items on a command line in any order. Each argument is collected by itself, so only the order of
the items that give the same argument matters, and only for arguments that may be repeated. -/

namespace TagIndex.CommandLine

def onceOnly : List Argument := [.output, .recurse, .verbose]

namespace Item

def file? : Item → Option String
  | file path => some path
  | _ => none

def excluded? : Item → Option String
  | exclude _ text => some text
  | _ => none

def output? : Item → Option String
  | output _ path => some path
  | _ => none

end Item

def uses (a : Argument) (items : List Item) : Nat := items.countP (·.argument = a)

def givenBy (items : List Item) : Given where
  exclude := items.filterMap Item.excluded?
  files := items.filterMap Item.file?
  output := (items.filterMap Item.output?).head?
  recurse := 0 < uses .recurse items
  verbose := 0 < uses .verbose items

/-- No argument is given twice that may be given once only. -/
def EachOnce (items : List Item) : Prop := ∀ a ∈ onceOnly, uses a items ≤ 1

instance : DecidablePred EachOnce := fun _ => inferInstanceAs (Decidable (∀ a ∈ onceOnly, _))

/-- The words of items one after the other, and files after two hyphens if there are any such. -/
def commandLine (items : List Item) (files : Option (List String)) : List String :=
  items.flatMap Item.words ++ files.elim [] ("--" :: ·)

/-- What a command line asks for. One hyphen as output stands for standard output. -/
def askedFor (items : List Item) (files : List String) : Options where
  exclude := items.filterMap Item.excluded?
  files := items.filterMap Item.file? ++ files
  output := (items.filterMap Item.output?).head?.filter (· ≠ "-")
  recurse := 0 < uses .recurse items
  verbose := 0 < uses .verbose items

section

variable {items items' : List Item} {i : Item} {a : Argument}

theorem uses_append : uses a (items ++ [i]) = uses a items + if i.argument = a then 1 else 0 := by
  simp [uses, List.countP_append, List.countP_cons]

theorem filterMap_output?_eq_nil_iff :
    items.filterMap Item.output? = [] ↔ uses .output items = 0 := by
  rw [List.filterMap_eq_nil_iff, uses, List.countP_eq_zero]
  refine forall₂_congr fun i _ => ?_
  cases i <;> simp [Item.output?, Item.argument]

theorem repeats_iff :
    i.Repeats (givenBy items) ↔ i.argument ∈ onceOnly ∧ 0 < uses i.argument items := by
  cases i with
  | output _ path =>
    have given : (items.filterMap Item.output?).head? ≠ none ↔ 0 < uses .output items := by
      rw [ne_eq, List.head?_eq_none_iff, filterMap_output?_eq_nil_iff, Nat.pos_iff_ne_zero]
    simpa only [Item.Repeats, Item.argument, onceOnly, givenBy, List.mem_cons, true_or,
      true_and] using given
  | _ => simp [Item.Repeats, Item.argument, onceOnly, givenBy]

theorem givenBy_append (fresh : ¬ i.Repeats (givenBy items)) :
    givenBy (items ++ [i]) = i.addTo (givenBy items) := by
  cases i with
  | output _ path =>
    have none_before : items.filterMap Item.output? = [] := by
      rw [repeats_iff] at fresh
      rw [filterMap_output?_eq_nil_iff]
      simpa [onceOnly, Item.argument] using fresh
    simp [givenBy, uses_append, none_before, Item.addTo, Item.argument, Item.file?,
      Item.excluded?, Item.output?]
  | _ =>
    simp [givenBy, uses_append, Item.addTo, Item.argument, Item.file?, Item.excluded?,
      Item.output?]

theorem eachOnce_append_iff :
    EachOnce (items ++ [i]) ↔ EachOnce items ∧ ¬ i.Repeats (givenBy items) := by
  rw [repeats_iff]
  constructor
  · intro once
    refine ⟨fun a mem => ?_, fun ⟨mem, used⟩ => ?_⟩
    · have most := once a mem
      rw [uses_append] at most
      omega
    · have most := once i.argument mem
      rw [uses_append, if_pos rfl] at most
      omega
  · rintro ⟨once, fresh⟩ a mem
    rw [uses_append]
    split
    · rename_i same
      subst same
      have unused := not_and.1 fresh mem
      omega
    · exact once a mem

theorem isOpen_flatMap_words (writable : ∀ i ∈ items, i.Writable) :
    Open (items.flatMap Item.words) := by
  intro mem
  obtain ⟨i, listed, within⟩ := List.mem_flatMap.1 mem
  exact (writable i listed).isOpen within

variable {read : Reader}

theorem Reader.Collects.read_items (rules : read.Collects) (writable : ∀ i ∈ items, i.Writable) :
    (EachOnce items → read (items.flatMap Item.words) = .ok (givenBy items)) ∧
    (¬ EachOnce items → ∃ text, read (items.flatMap Item.words) = .error ⟨.conflict, text⟩) := by
  induction items using List.reverseRecOn with
  | nil => exact ⟨fun _ => rules.nothing, fun twice => absurd (by decide) twice⟩
  | append_singleton items i ih =>
    obtain ⟨before, last⟩ := List.forall_mem_append.1 writable
    have here : i.Writable := last i List.mem_cons_self
    have isOpen := isOpen_flatMap_words before
    obtain ⟨accepted, refused⟩ := ih before
    rw [eachOnce_append_iff, List.flatMap_append, List.flatMap_singleton]
    refine ⟨fun ⟨once, fresh⟩ => ?_, fun twice => ?_⟩
    · rw [givenBy_append fresh]
      exact rules.item isOpen (accepted once) here fresh
    · by_cases once : EachOnce items
      · have again : i.Repeats (givenBy items) := by
          by_contra fresh
          exact twice ⟨once, fresh⟩
        exact rules.conflict isOpen (accepted once) here again
      · obtain ⟨text, refused⟩ := refused once
        exact rules.item_after isOpen refused here

theorem Reader.Collects.read_commandLine (rules : read.Collects)
    (writable : ∀ i ∈ items, i.Writable) {files : Option (List String)}
    (named : ∀ path ∈ files.getD [], path ≠ "") :
    (EachOnce items → read (commandLine items files) =
      .ok { givenBy items with files := (givenBy items).files ++ files.getD [] }) ∧
    (¬ EachOnce items → ∃ text, read (commandLine items files) = .error ⟨.conflict, text⟩) := by
  obtain ⟨accepted, refused⟩ := rules.read_items writable
  have isOpen := isOpen_flatMap_words writable
  unfold commandLine
  cases files with
  | none => simpa using ⟨accepted, refused⟩
  | some files =>
    refine ⟨fun once => rules.files isOpen (accepted once) named, fun twice => ?_⟩
    obtain ⟨text, refused⟩ := refused twice
    exact rules.files_after isOpen refused named

def giving (a : Argument) (items : List Item) : List Item := items.filter (·.argument = a)

theorem filterMap_congr_giving {f : Item → Option String} {a : Argument}
    (only : ∀ i : Item, i.argument ≠ a → f i = none) (same : giving a items = giving a items') :
    items.filterMap f = items'.filterMap f := by
  have narrowed (l : List Item) : (giving a l).filterMap f = l.filterMap f := by
    rw [giving, List.filterMap_filter]
    refine List.filterMap_congr fun i _ => ?_
    by_cases given : i.argument = a
    · simp [given]
    · simp [given, only i given]
  rw [← narrowed items, same, narrowed]

theorem uses_congr {a : Argument} (same : giving a items = giving a items') :
    uses a items = uses a items' := by
  rw [uses, uses, List.countP_eq_length_filter, List.countP_eq_length_filter]
  exact congrArg List.length same

theorem askedFor_congr (same : ∀ a, giving a items = giving a items') (files : List String) :
    askedFor items files = askedFor items' files := by
  have paths : items.filterMap Item.file? = items'.filterMap Item.file? :=
    filterMap_congr_giving (by rintro (_ | _) <;> simp [Item.file?, Item.argument]) (same .files)
  have exclude : items.filterMap Item.excluded? = items'.filterMap Item.excluded? :=
    filterMap_congr_giving (by rintro (_ | _) <;> simp [Item.excluded?, Item.argument])
      (same .exclude)
  have output : items.filterMap Item.output? = items'.filterMap Item.output? :=
    filterMap_congr_giving (by rintro (_ | _) <;> simp [Item.output?, Item.argument])
      (same .output)
  simp only [askedFor, paths, exclude, output, uses_congr (same _)]

theorem eachOnce_congr (same : ∀ a, giving a items = giving a items') (once : EachOnce items) :
    EachOnce items' := fun a mem => uses_congr (same a) ▸ once a mem

theorem mem_of_giving (same : ∀ a, giving a items = giving a items') {i : Item} (mem : i ∈ items') :
    i ∈ items := by
  have listed : i ∈ giving i.argument items' := List.mem_filter.2 ⟨mem, by simp⟩
  rw [← same] at listed
  exact (List.mem_filter.1 listed).1

end

/-- The words of items in any order, each spelled in any of its ways, and then files after two
hyphens. An argument that may be given once only is a conflict when it is given again. Otherwise the
command line asks for what its items ask for, and it does not matter how items of different
arguments are mixed. -/
theorem items_in_any_order (read : Reader) (rules : read.Collects) (items : List Item)
    (files : Option (List String)) (writable : ∀ i ∈ items, i.Writable)
    (named : ∀ path ∈ files.getD [], path ≠ "") :
    (EachOnce items →
      Given.options <$> read (commandLine items files) = .ok (askedFor items (files.getD []))) ∧
    (¬ EachOnce items → ∃ text, read (commandLine items files) = .error ⟨.conflict, text⟩) ∧
    ∀ items', (∀ a, giving a items = giving a items') → EachOnce items →
      Given.options <$> read (commandLine items' files) =
        Given.options <$> read (commandLine items files) := by
  have accepted {items : List Item} (writable : ∀ i ∈ items, i.Writable) (once : EachOnce items) :
      Given.options <$> read (commandLine items files) =
        .ok (askedFor items (files.getD [])) := by
    rw [(rules.read_commandLine writable named).1 once]
    rfl
  refine ⟨accepted writable, (rules.read_commandLine writable named).2, fun items' same once => ?_⟩
  have writable' : ∀ i ∈ items', i.Writable := fun i mem => writable i (mem_of_giving same mem)
  rw [accepted writable once, accepted writable' (eachOnce_congr same once), askedFor_congr same]

def Sample.items : List Item :=
  [.file "-", .exclude true "a=b", .output .letter "-", .recurse false, .exclude false "",
    .file "x.go", .verbose true]

theorem items_in_any_order_mixed :
    Given.options <$> read ["-", "--exclude=a=b", "-f", "-", "--recurse", "--exclude", "", "x.go",
      "-v", "--", "-R", "--"] = .ok ⟨["a=b", ""], ["-", "x.go", "-R", "--"], none, true, true⟩ ∧
    Given.options <$> read ["-v", "--exclude=a=b", "--recurse", "-", "--exclude", "", "x.go", "-f",
      "-", "--", "-R", "--"] = .ok ⟨["a=b", ""], ["-", "x.go", "-R", "--"], none, true, true⟩ := by
  have writable : ∀ i ∈ Sample.items, i.Writable := by
    simp [Sample.items, Item.Writable, IsPlainWord]
  obtain ⟨accepted, -, moved⟩ :=
    items_in_any_order CommandLine.read read_collects Sample.items (some ["-R", "--"]) writable
      (by decide)
  have parsed := accepted (by decide)
  refine ⟨parsed, (moved [.verbose true, .exclude true "a=b", .recurse false, .file "-",
    .exclude false "", .file "x.go", .output .letter "-"] ?_ (by decide)).trans parsed⟩
  intro a
  cases a <;> decide

end TagIndex.CommandLine
