/-! Records of a tag file. -/

namespace TagIndex

inductive TagKind where
  | package
  | function
  | type
  | value
deriving BEq, DecidableEq, Inhabited, Repr

def TagKind.letter : TagKind → Char
  | package => 'p'
  | function => 'f'
  | type => 't'
  | value => 'v'

structure Tag where
  name : String
  file : String
  line : Nat
  kind : TagKind
deriving BEq, DecidableEq, Inhabited, Repr

/-- A tag on one line: name, file, line with the mark that ends a search command, and kind, with
tabs between them. -/
def Tag.text (t : Tag) : String :=
  t.name ++ "\t" ++ t.file ++ "\t" ++ toString t.line ++ ";\"\t" ++ t.kind.letter.toString

end TagIndex
