/-! What a run is asked to do. -/

namespace TagIndex

structure Options where
  exclude : List String := []
  files : List String := []
  /-- Where the tag file goes; standard output if there is no path. -/
  output : Option String := none
  recurse : Bool := false
  verbose : Bool := false
deriving BEq, DecidableEq, Inhabited, Repr

/-- A file found below a walked directory is scanned unless its path from there on starts with an
excluded prefix. -/
def Options.shouldScan (o : Options) (relative : String) : Bool :=
  !o.exclude.any fun p => p.toList.isPrefixOf relative.toList

end TagIndex
