import TagIndex.Files.FileSystem

/-! Making and removing entries. -/

namespace TagIndex.Files

def splitPath (path : String) : Option (String × String) :=
  let names := (steps path).filter (· ≠ "")
  names.getLast?.map fun name =>
    let above := chainText names.dropLast
    (if isAbsolute path then "/" ++ above else if above = "" then "." else above, name)

namespace FileSystem

/-- Where the last name of a path stands, if its directory exists. A link of that name is not
followed. -/
def entryLocation (fs : FileSystem) (path : String) : Except SystemError (List String) :=
  match splitPath path with
  | none => .error .notFound
  | some (above, name) => do
    match ← fs.resolve false above with
    | .present location =>
      if fs.root.surfaceAt? location = some .directory then .ok (location ++ [name])
      else .error .notDirectory
    | .vacant .. => .error .notFound

/-- Make one directory; one that exists stays as it is. -/
def makeDirectory (fs : FileSystem) (path : String) : Except SystemError FileSystem :=
  match h : fs.resolve false path with
  | .error e => .error e
  | .ok (.present location) => match fs.root.surfaceAt? location with
    | some .directory => .ok fs
    | _ => .error .notDirectory
  | .ok (.vacant directory name) =>
    .ok (fs.put (directory ++ [name]) (.directory [])
      (.directory (by simp) (by simp) (by simp))
      (by cases fits_of_resolve h; simpa) (by cases fits_of_resolve h; simp_all))

def makeDirectories (fs : FileSystem) (path : String) : Except SystemError FileSystem :=
  let names := (steps path).filter (· ≠ "")
  let start := if isAbsolute path then "/" else "."
  ((List.range names.length).map fun k => joinAll start (names.take (k + 1))).foldlM
    makeDirectory fs

def makeAbove (fs : FileSystem) (path : String) : Except SystemError FileSystem :=
  match splitPath path with
  | some (above, _) => fs.makeDirectories above
  | none => .ok fs

def makeLink (fs : FileSystem) (path target : String) : Except SystemError FileSystem := do
  let location ← fs.entryLocation path
  if readable : '\x00' ∈ target.toList then .error .nulInPath
  else if free : fs.root.surfaceAt? location ≠ none then
    .error (.other "File exists (os error 17)")
  else if named : ∀ name ∈ location.getLast?, IsName name then
    .ok (fs.put location (.link target) (.link readable) named (by simp_all))
  else .error .notFound

def removeFile (fs : FileSystem) (path : String) : Except SystemError FileSystem := do
  let location ← fs.entryLocation path
  if free : fs.root.surfaceAt? location = some .directory then .error .isDirectory
  else if fs.root.surfaceAt? location = none then .error .notFound
  else .ok (fs.remove location free)

end FileSystem
end TagIndex.Files
