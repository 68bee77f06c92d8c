import TagIndex.CommandLine.Parse
import TagIndex.Run.Outcome

/-! The program: a command line in, an exit code and two output streams out. -/

namespace TagIndex
open Files CommandLine

namespace Host

variable {m : Type → Type} [Monad m]

def conclude (host : Host m) : Except Error Unit → m Nat
  | .ok () => return 0
  | .error e => do
    host.complain (e.message ++ "\n")
    return 1

def program (host : Host m) (read : Reader) (render : Event → String) (parse : String → Tree)
    (words : List String) : m Nat := do
  match read words with
  | .ok given =>
    let emit (log : List Event) : m Unit := host.complain (logText render given.verbose log)
    host.conclude (← host.run emit parse given.options)
  | .error refusal =>
    if refusal.kind = .help then
      -- Nobody is told if the help does not arrive.
      let _ ← host.print [Text.Utf8.encode refusal.text.toList]
      return 0
    else
      host.complain refusal.text
      return 2

end Host

structure Exit where
  code : Nat
  output : List UInt8
  errors : String
  files : FileSystem
deriving Inhabited

def program (parse : String → Tree) (fs : FileSystem) (words : List String)
    (sink : Sink := .unlimited) (read : Reader := CommandLine.read)
    (render : Event → String := Event.line) : Exit :=
  let (code, after) := ((World.host sink).program read render parse words).run { files := fs }
  ⟨code, after.output, after.errors, after.files⟩

end TagIndex
