import TagIndex.CommandLine.Argument
import TagIndex.CommandLine.Given

/-! Items on a command line. A reader of command lines is known here by its rules alone: what one
more item does to what was given before it. -/

namespace TagIndex.CommandLine

instance : LawfulBEq Argument where
  eq_of_beq {a b} := by cases a <;> cases b <;> decide
  rfl {a} := by cases a <;> rfl

inductive OutputSpelling where
  | attached
  | long
  | letter
deriving DecidableEq, Repr

inductive Item where
  | file (path : String)
  | exclude (attached : Bool) (text : String)
  | output (spelling : OutputSpelling) (path : String)
  | recurse (short : Bool)
  | verbose (short : Bool)
deriving DecidableEq, Repr

/-- A word that is no option: one hyphen alone, or one that begins with something else. -/
def IsPlainWord (word : String) : Prop := word = "-" ∨ word.toList.head? ≠ some '-'

instance : DecidablePred IsPlainWord := fun _ => inferInstanceAs (Decidable (_ ∨ _))

def Open (words : List String) : Prop := "--" ∉ words

namespace Item

def argument : Item → Argument
  | file _ => .files
  | exclude _ _ => .exclude
  | output _ _ => .output
  | recurse _ => .recurse
  | verbose _ => .verbose

def words : Item → List String
  | file path => [path]
  | exclude true text => ["--exclude=" ++ text]
  | exclude false text => ["--exclude", text]
  | output .attached path => ["--output=" ++ path]
  | output .long path => ["--output", path]
  | output .letter path => ["-f", path]
  | recurse true => ["-R"]
  | recurse false => ["--recurse"]
  | verbose true => ["-v"]
  | verbose false => ["--verbose"]

/-- The words of the item are taken for what they are meant. -/
def Writable : Item → Prop
  | file path => path ≠ "" ∧ IsPlainWord path
  | exclude true _ => True
  | exclude false text => text.toList.head? ≠ some '-'
  | output _ path => path ≠ "" ∧ IsPlainWord path
  | recurse _ => True
  | verbose _ => True

/-- The item gives what was given before, and may be given once only. -/
def Repeats (g : Given) : Item → Prop
  | output _ _ => g.output ≠ none
  | recurse _ => g.recurse = true
  | verbose _ => g.verbose = true
  | _ => False

def addTo (g : Given) : Item → Given
  | file path => { g with files := g.files ++ [path] }
  | exclude _ text => { g with exclude := g.exclude ++ [text] }
  | output _ path => { g with output := some path }
  | recurse _ => { g with recurse := true }
  | verbose _ => { g with verbose := true }

end Item

/-- What is documented of a reader for arguments of these kinds: files and excluded prefixes are
lists, which grow; an output and the two flags are set, which is a conflict the second time. -/
structure Reader.Collects (read : Reader) : Prop where
  nothing : read [] = .ok {}
  file {front : List String} {g : Given} {path : String} : Open front → read front = .ok g →
    (Item.file path).Writable →
    read (front ++ [path]) = .ok { g with files := g.files ++ [path] }
  exclude {front : List String} {g : Given} {attached : Bool} {text : String} : Open front →
    read front = .ok g → (Item.exclude attached text).Writable →
    read (front ++ (Item.exclude attached text).words) =
      .ok { g with exclude := g.exclude ++ [text] }
  output {front : List String} {g : Given} {spelling : OutputSpelling} {path : String} :
    Open front → read front = .ok g → (Item.output spelling path).Writable → g.output = none →
    read (front ++ (Item.output spelling path).words) = .ok { g with output := some path }
  recurse {front : List String} {g : Given} (short : Bool) : Open front → read front = .ok g →
    g.recurse = false → read (front ++ (Item.recurse short).words) = .ok { g with recurse := true }
  verbose {front : List String} {g : Given} (short : Bool) : Open front → read front = .ok g →
    g.verbose = false → read (front ++ (Item.verbose short).words) = .ok { g with verbose := true }
  conflict {front : List String} {g : Given} {i : Item} : Open front → read front = .ok g →
    i.Writable → i.Repeats g → ∃ text, read (front ++ i.words) = .error ⟨.conflict, text⟩
  -- Behind two hyphens there are only files.
  files {front files : List String} {g : Given} : Open front → read front = .ok g →
    (∀ path ∈ files, path ≠ "") →
    read (front ++ "--" :: files) = .ok { g with files := g.files ++ files }
  -- A conflict is reported whatever well-formed items follow it.
  item_after {front : List String} {text : String} {i : Item} : Open front →
    read front = .error ⟨.conflict, text⟩ → i.Writable →
    ∃ text', read (front ++ i.words) = .error ⟨.conflict, text'⟩
  files_after {front files : List String} {text : String} : Open front →
    read front = .error ⟨.conflict, text⟩ → (∀ path ∈ files, path ≠ "") →
    ∃ text', read (front ++ "--" :: files) = .error ⟨.conflict, text'⟩

theorem Reader.Collects.item {read : Reader} (rules : read.Collects) {front : List String}
    {g : Given} {i : Item} (isOpen : Open front) (h : read front = .ok g) (writable : i.Writable)
    (fresh : ¬ i.Repeats g) : read (front ++ i.words) = .ok (i.addTo g) := by
  cases i with
  | file path => exact rules.file isOpen h writable
  | exclude attached text => exact rules.exclude isOpen h writable
  | output spelling path => exact rules.output isOpen h writable (Decidable.not_not.1 fresh)
  | recurse short => exact rules.recurse short isOpen h (by simpa [Item.Repeats] using fresh)
  | verbose short => exact rules.verbose short isOpen h (by simpa [Item.Repeats] using fresh)

theorem IsPlainWord.ne_hyphens {word : String} (plain : IsPlainWord word) : word ≠ "--" := by
  rintro rfl
  exact absurd plain (by decide)

theorem Item.Writable.isOpen {i : Item} (h : i.Writable) : Open i.words := by
  have attached (name text : String) (long : 2 < name.length) : "--" ≠ name ++ text := by
    intro same
    have lengths := congrArg String.length same
    have two : "--".length = 2 := by decide
    rw [String.length_append] at lengths
    omega
  unfold Open
  cases i with
  | file path => simpa [words] using h.2.ne_hyphens.symm
  | exclude tied text =>
    cases tied with
    | true => simpa [words] using attached "--exclude=" text (by decide)
    | false => simpa [words] using (IsPlainWord.ne_hyphens (.inr h)).symm
  | output spelling path =>
    cases spelling with
    | attached => simpa [words] using attached "--output=" path (by decide)
    | long | letter => simpa [words] using h.2.ne_hyphens.symm
  | recurse short | verbose short => cases short <;> simp [words]

end TagIndex.CommandLine
