import TagIndex.Run.Host

/-! Runs on files that are data. -/

namespace TagIndex
open Files

structure World where
  files : FileSystem
  output : List UInt8 := []
  errors : String := ""
  log : List Event := []
deriving Inhabited

namespace World

def record (log : List Event) : StateM World Unit :=
  modify fun w => { w with log := w.log ++ log }

def host (sink : Sink) : Host (StateM World) where
  look _ := return (← get).files.view
  print pieces := modifyGet fun w =>
    let written := sink.write pieces
    (written.failure, { w with output := w.output ++ written.bytes })
  create path pieces := modifyGet fun w =>
    let written := sink.write pieces
    match w.files.write path written.bytes with
    | .ok files => (.ok written.failure, { w with files })
    | .error cause => (.error cause, w)
  complain text := modify fun w => { w with errors := w.errors ++ text }

end World

structure Outcome where
  log : List Event
  result : Except Error Unit
  output : List UInt8
  files : FileSystem
deriving Inhabited

def run (parse : String → Tree) (fs : FileSystem) (o : Options) (sink : Sink := .unlimited) :
    Outcome :=
  let (result, after) := ((World.host sink).run World.record parse o).run { files := fs }
  ⟨after.log, result, after.output, after.files⟩

end TagIndex
