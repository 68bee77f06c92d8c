import TagIndex.Go.Parser
import TagIndex.Program
import Std.Data.HashMap

/-! The command: the program on the files of a disk and the streams of a process. -/

namespace TagIndex.Command
open Files

def codeAndText : IO.Error → UInt32 × String
  | .noFileOrDirectory _ code text | .interrupted _ code text => (code, text)
  | .alreadyExists _ code text | .invalidArgument _ code text | .permissionDenied _ code text
  | .resourceExhausted _ code text | .inappropriateType _ code text
  | .noSuchThing _ code text => (code, text)
  | .otherError code text | .resourceBusy code text | .resourceVanished code text
  | .unsupportedOperation code text | .hardwareFault code text
  | .unsatisfiedConstraints code text | .illegalOperation code text | .protocolError code text
  | .timeExpired code text => (code, text)
  | .unexpectedEof => (0, "unexpected end of file")
  | .userError text => (0, text)

/-- The number of a system error. Some operations report it as a negative number. -/
def systemCode (code : UInt32) : Nat := if code < 0x80000000 then code.toNat else (0 - code).toNat

def systemError (e : IO.Error) : SystemError :=
  let (code, text) := codeAndText e
  match systemCode code with
  | 0 => .other text
  | 2 => .notFound
  | 20 => .notDirectory
  | 21 => .isDirectory
  | 36 => .nameTooLong
  | 40 => .tooManyLinks
  | n => .other (text ++ " (os error " ++ toString n ++ ")")

def trying {α : Type} (operation : IO α) : IO (Except SystemError α) := do
  match ← operation.toBaseIO with
  | .ok x => return .ok x
  | .error e => return .error (systemError e)

def place (path : String) : IO.FS.DirEntry := ⟨path, ""⟩

def lookAt (path : String) : IO (Except SystemError Info) := trying do
  let found ← (place path).root.metadata
  return ⟨found.type == .dir, found.byteSize.toNat⟩

def contentOf (path : String) : IO (Except SystemError (List UInt8)) := trying do
  return (← IO.FS.readBinFile path).toList

def unreadable (path : String) (cause : SystemError) : Listing :=
  .unreadable (walkFailure path cause)

partial def listing (path : String) : IO Listing := do
  match ← trying (place path).root.readDir with
  | .error cause => return unreadable path cause
  | .ok found =>
    let entries ← found.toList.mapM fun child => do
      let below := join path child.fileName
      match ← trying (place below).root.symlinkMetadata with
      | .error cause => return (child.fileName, unreadable below cause)
      | .ok metadata => match metadata.type with
        | .file => return (child.fileName, .file)
        | .dir => return (child.fileName, ← listing below)
        | _ => return (child.fileName, .other)
    return .directory entries

structure Findings where
  info : Std.HashMap String (Except SystemError Info) := ∅
  content : Std.HashMap String (Except SystemError (List UInt8)) := ∅
  listings : Std.HashMap String Listing := ∅

def Findings.view (f : Findings) : View where
  info path := (f.info[path]?).getD (.error .notFound)
  read path := (f.content[path]?).getD (.error .notFound)
  walk path := ((f.listings[path]?).map Listing.visits).getD []

/-- Look at the arguments of a run, and at the files below those that are directories. -/
def lookAtArguments (o : Options) : IO Findings :=
  o.files.foldlM (fun f path => do
    let info ← lookAt path
    let f := { f with info := f.info.insert path info }
    if o.recurse && (info.toOption.map (·.isDirectory)).getD false then
      return { f with listings := f.listings.insert path (← listing path) }
    else return f) {}

def lookAtInputs (f : Findings) (inputs : List String) : IO Findings :=
  inputs.foldlM (fun f path => do
    return { f with
      info := f.info.insert path (← lookAt path)
      content := f.content.insert path (← contentOf path) }) f

def look (o : Options) : IO View := do
  let found ← lookAtArguments o
  match (o.inputs found.view).result with
  | .ok inputs => return (← lookAtInputs found inputs).view
  | .error _ => return found.view

def send (write : ByteArray → IO Unit) (flush : IO Unit) (pieces : List (List UInt8)) :
    IO (Option String) := do
  match ← trying (do write ⟨pieces.flatten.toArray⟩; flush) with
  | .ok () => return none
  | .error cause => return some cause.message

def host : Host IO where
  look := look
  print pieces := do
    let out ← IO.getStdout
    send out.write out.flush pieces
  create path pieces := do
    match ← trying (IO.FS.Handle.mk path .write) with
    | .ok file => return .ok (← send file.write file.flush pieces)
    | .error cause => return .error cause
  complain := IO.eprint

end TagIndex.Command

def main (words : List String) : IO UInt32 := do
  let code ← TagIndex.Command.host.program TagIndex.CommandLine.read TagIndex.Event.line
    TagIndex.Go.parse words
  return code.toUInt32
