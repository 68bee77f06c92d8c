import TagIndex.Files.Follow

/-! File systems: finding the node that a path leads to, reading and writing files. -/

namespace TagIndex.Files

structure FileSystem where
  root : Node
  workingDirectory : List String
  sound : root.Sound
  standing : root.surfaceAt? workingDirectory = some .directory

def pathLimit : Nat := 4095

structure Info where
  isDirectory : Bool
  /-- In bytes. -/
  size : Nat
deriving BEq, DecidableEq, Inhabited, Repr

def directorySize : Nat := 4096

def Node.info : Node → Info
  | .file content => ⟨false, content.length⟩
  | .link target => ⟨false, target.utf8ByteSize⟩
  | .directory _ => ⟨true, directorySize⟩

namespace FileSystem

/-- An empty file system whose working directory is not its root. -/
def empty : FileSystem where
  root := .directory [("work", .directory [])]
  workingDirectory := ["work"]
  sound := .directory (by decide) (by decide) (by
    simpa using .directory (by decide) (by simp) (by simp))
  standing := rfl

instance : Inhabited FileSystem := ⟨empty⟩

def put (fs : FileSystem) (location : List String) (new : Node) (good : new.Sound)
    (named : ∀ name ∈ location.getLast?, IsName name)
    (free : fs.root.surfaceAt? location ≠ some .directory) : FileSystem where
  root := fs.root.put location new
  workingDirectory := fs.workingDirectory
  sound := fs.sound.put good named
  standing := by
    rw [Node.surfaceAt?_put_of_not_prefix _ _
      (Node.not_prefix_of_surfaceAt?_eq_directory fs.standing free)]
    exact fs.standing

def remove (fs : FileSystem) (location : List String)
    (free : fs.root.surfaceAt? location ≠ some .directory) : FileSystem where
  root := fs.root.remove location
  workingDirectory := fs.workingDirectory
  sound := fs.sound.remove location
  standing := by
    rw [Node.surfaceAt?_remove_of_not_prefix _
      (Node.not_prefix_of_surfaceAt?_eq_directory fs.standing free)]
    exact fs.standing

def resolve (fs : FileSystem) (creating : Bool) (path : String) :
    Except SystemError Destination :=
  if path.toList.contains '\x00' then .error .nulInPath
  else if path = "" then .error .notFound
  else if pathLimit < path.utf8ByteSize then .error .nameTooLong
  else follow fs.root creating linkLimit (if isAbsolute path then [] else fs.workingDirectory)
    (steps path)

structure Followed (path : String) : Prop where
  readable : '\x00' ∉ path.toList
  nonempty : path ≠ ""
  short : path.utf8ByteSize ≤ pathLimit

theorem resolve_eq_ok_iff {fs : FileSystem} {creating : Bool} {path : String} {d : Destination} :
    fs.resolve creating path = .ok d ↔ Followed path ∧ Leads fs.root creating linkLimit
      (if isAbsolute path then [] else fs.workingDirectory) (steps path) d := by
  rw [resolve, ← follow_eq_ok_iff]
  split
  · rename_i nul
    exact ⟨nofun, fun h => absurd (by simpa using nul) h.1.readable⟩
  · split
    · exact ⟨nofun, fun h => absurd ‹_› h.1.nonempty⟩
    · split
      · exact ⟨nofun, fun h => absurd h.1.short (Nat.not_le.2 ‹_›)⟩
      · rename_i nul nonempty short
        exact ⟨fun h => ⟨⟨by simpa using nul, nonempty, Nat.not_lt.1 short⟩, h⟩, (·.2)⟩

theorem fits_of_resolve {fs : FileSystem} {creating : Bool} {path : String} {d : Destination}
    (h : fs.resolve creating path = .ok d) : d.Fits fs.root := by
  obtain ⟨followed, leads⟩ := resolve_eq_ok_iff.1 h
  exact leads.fits fs.sound (surfaceAt?_start path fs.standing) (readable_steps followed.readable)

def node (fs : FileSystem) (path : String) : Except SystemError Node := do
  match ← fs.resolve false path with
  | .present location => match fs.root.at? location with
    | some n => .ok n
    | none => .error .notFound
  | .vacant .. => .error .notFound

def info (fs : FileSystem) (path : String) : Except SystemError Info := Node.info <$> fs.node path

def read (fs : FileSystem) (path : String) : Except SystemError (List UInt8) := do
  match ← fs.node path with
  | .file content => .ok content
  | .directory _ => .error .isDirectory
  | .link _ => .error .notFound

/-- Where the file stands that a path names or, if its directory lacks the name, would create. -/
def target (fs : FileSystem) (path : String) : Except SystemError (List String) := do
  match ← fs.resolve true path with
  | .present location => match fs.root.surfaceAt? location with
    | some (.file _) => .ok location
    | some .directory => .error .isDirectory
    | _ => .error .notFound
  | .vacant directory name => .ok (directory ++ [name])

structure TakesFile (fs : FileSystem) (location : List String) : Prop where
  split : ∃ directory name, location = directory ++ [name] ∧ IsName name ∧
    fs.root.surfaceAt? directory = some .directory
  surface : fs.root.surfaceAt? location = none ∨
    ∃ content, fs.root.surfaceAt? location = some (.file content)

theorem TakesFile.named {fs : FileSystem} {location : List String} (h : fs.TakesFile location) :
    ∀ name ∈ location.getLast?, IsName name := by
  obtain ⟨directory, name, rfl, named, _⟩ := h.split
  simpa using named

theorem TakesFile.free {fs : FileSystem} {location : List String} (h : fs.TakesFile location) :
    fs.root.surfaceAt? location ≠ some .directory := by
  obtain none | ⟨content, file⟩ := h.surface <;> simp_all

theorem takesFile_of_file {fs : FileSystem} {location : List String} {content : List UInt8}
    (h : fs.root.surfaceAt? location = some (.file content)) : fs.TakesFile location := by
  obtain rfl | ⟨directory, name, rfl⟩ := location.eq_nil_or_concat
  · have root := surfaceAt?_start "/" fs.standing
    rw [if_pos (by decide), h] at root
    cases root
  · rw [List.concat_eq_append] at h ⊢
    have stands : fs.root.surfaceAt? (directory ++ [name]) ≠ none := by simp [h]
    exact ⟨⟨directory, name, rfl, fs.sound.isName stands,
      Node.surfaceAt?_eq_directory_of_append stands (by simp)⟩, .inr ⟨content, h⟩⟩

theorem takesFile_of_target {fs : FileSystem} {path : String} {location : List String}
    (h : fs.target path = .ok location) : fs.TakesFile location := by
  unfold target at h
  cases resolved : fs.resolve true path with
  | error e => simp [resolved, bind, Except.bind] at h
  | ok d =>
    simp only [resolved, bind, Except.bind] at h
    cases fits_of_resolve resolved with
    | directory found => simp [found] at h
    | file found =>
      simp only [found, Except.ok.injEq] at h
      exact h ▸ takesFile_of_file found
    | vacant named above free =>
      simp only [Except.ok.injEq] at h
      exact h ▸ ⟨⟨_, _, rfl, named, above⟩, .inl free⟩

/-- Write a file. It is created if the path leads to a name that its directory lacks, and loses
what it held before if it exists. -/
def write (fs : FileSystem) (path : String) (content : List UInt8) :
    Except SystemError FileSystem :=
  match h : fs.target path with
  | .ok location =>
    let takes := takesFile_of_target h
    .ok (fs.put location (.file content) (.file content) takes.named takes.free)
  | .error e => .error e

end FileSystem
end TagIndex.Files
