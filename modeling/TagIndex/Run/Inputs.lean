import TagIndex.Files.Relative
import TagIndex.Files.Walk
import TagIndex.Options
import TagIndex.Run.Attempt

/-! Which files a run scans. -/

namespace TagIndex
open Files

/-- The name is a stem, which is not empty, with the extension of Go files. -/
def isGoFileName (name : String) : Bool :=
  ".go".toList.isSuffixOf name.toList && name ≠ ".go"

/-- The inputs among what a walk meets. Those left out are logged, and so is what cannot be read. -/
def Options.collect (o : Options) (root : String) : List Visit → Attempt (List String)
  | [] => pure []
  | .unreadable error :: rest => do
    Attempt.note ⟨.warn, "skipping unreadable entry", [("root", root), ("error", error)]⟩
    o.collect root rest
  | .file chain :: rest => do
    let path := joinAll root chain
    if chain.getLast?.any isGoFileName then
      if o.shouldScan (relativePath root path) then return path :: (← o.collect root rest)
      else
        Attempt.note ⟨.debug, "excluded", [("path", path)]⟩
        o.collect root rest
    else o.collect root rest

/-- The inputs that one argument stands for: the files below it if it is a directory, else the
argument itself. -/
def Options.expandOne (o : Options) (files : View) (path : String) : Attempt (List String) := do
  let info ← Attempt.ofExcept ((files.info path).mapError (.readFailed path))
  if info.isDirectory then o.collect path (files.walk path) else return [path]

def Options.expandAll (o : Options) (files : View) : List String → Attempt (List String)
  | [] => pure []
  | path :: rest => do
    let inputs ← o.expandOne files path
    return inputs ++ (← o.expandAll files rest)

def Options.inputs (o : Options) (files : View) : Attempt (List String) :=
  if o.recurse then o.expandAll files o.files else pure o.files

end TagIndex
