import TagIndex.Run.Inputs
import TagIndex.Run.Scan

/-! A whole run: scan every input, then write the tag file once. What a run asks of the machine is
left open, so that the same run takes place on files that are data and on those of a disk. -/

namespace TagIndex
open Files

/-- The services of a machine. Bytes are sent in pieces; a text that comes back says why not all of
them were taken. -/
structure Host (m : Type → Type) where
  look : Options → m View
  print : List (List UInt8) → m (Option String)
  /-- Create a file, or empty the one that is there, and send bytes to it. -/
  create : String → List (List UInt8) → m (Except SystemError (Option String))
  complain : String → m Unit

def gatherTags (parse : String → Tree) (files : View) (o : Options) : Attempt TagList := do
  let inputs ← o.inputs files
  let tags ← scanAll parse files {} inputs
  Attempt.note ⟨.debug, "writing tag file",
    [("files", toString inputs.length), ("tags", toString tags.size)]⟩
  return tags

def sent : Option String → Except Error Unit
  | none => .ok ()
  | some cause => .error (.io cause)

namespace Host

variable {m : Type → Type} [Monad m]

def deliver (host : Host m) (o : Options) (tags : TagList) : m (Except Error Unit) := do
  match o.output with
  | none => return sent (← host.print tags.pieces)
  | some path => match ← host.create path tags.pieces with
    | .ok failure => return sent failure
    | .error cause => return .error (.writeFailed path cause)

/-- Nothing is written unless all inputs were read, and all were read before anything is written. -/
def run (host : Host m) (emit : List Event → m Unit) (parse : String → Tree) (o : Options) :
    m (Except Error Unit) := do
  let gathered := gatherTags parse (← host.look o) o
  emit gathered.log
  match gathered.result with
  | .ok tags => host.deliver o tags
  | .error e => return .error e

end Host
end TagIndex
