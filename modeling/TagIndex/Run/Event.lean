/-! What a run tells about its work. -/

namespace TagIndex

inductive Level where
  | warn
  | debug
deriving BEq, DecidableEq, Inhabited, Repr

def Level.name : Level → String
  | warn => "WARN"
  | debug => "DEBUG"

structure Event where
  level : Level
  message : String
  fields : List (String × String)
deriving BEq, DecidableEq, Inhabited, Repr

/-- Warnings are always shown, other events if that was asked for. -/
def Event.shown (verbose : Bool) (e : Event) : Bool := verbose || e.level = .warn

def Event.line (e : Event) : String :=
  let fields := e.fields.map fun (name, value) => " " ++ name ++ "=" ++ value
  e.level.name ++ " " ++ e.message ++ String.join fields ++ "\n"

def logText (render : Event → String) (verbose : Bool) (log : List Event) : String :=
  String.join ((log.filter (·.shown verbose)).map render)

end TagIndex
