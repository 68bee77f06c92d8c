import TagIndex.Files.Path

/-! Paths as sequences of components, and what is left of a path below another one. -/

namespace TagIndex.Files

def pieces (path : String) : List String := (path.toList.splitOn '/').map String.ofList

structure Piece where
  text : String
  component : Option String
deriving BEq, DecidableEq, Inhabited, Repr

/-- A piece behind a slash is a component unless it is empty or a dot. -/
def Piece.inner (text : String) : Piece :=
  ⟨text, if text = "" ∨ text = "." then none else some text⟩

/-- The first piece is also a component if it is a dot, or if it is empty before a slash, which
stands for the root. -/
def Piece.first (text : String) (rest : List String) : Piece :=
  ⟨text, if text ≠ "" then some text else if rest ≠ [] then some "/" else none⟩

def parsePieces (path : String) : List Piece :=
  match pieces path with
  | [] => []
  | text :: rest => .first text rest :: rest.map .inner

def components (path : String) : List String := (parsePieces path).filterMap (·.component)

def piecesAfter : List String → List Piece → Option (List Piece)
  | [], rest => some (rest.dropWhile (·.component.isNone))
  | _ :: _, [] => none
  | c :: cs, p :: rest =>
    match p.component with
    | none => piecesAfter (c :: cs) rest
    | some d => if c = d then piecesAfter cs rest else none

/-- What is left of a path after the components of another path that it begins with. It is left as
it is written, up to its last component. -/
def stripPrefix? (path root : String) : Option String :=
  (piecesAfter (components root) (parsePieces path)).map fun rest =>
    chainText ((rest.reverse.dropWhile (·.component.isNone)).reverse.map (·.text))

/-- A path as it is seen from a directory, or as it is if it does not begin with the directory's. -/
def relativePath (root path : String) : String := (stripPrefix? path root).getD path

end TagIndex.Files
