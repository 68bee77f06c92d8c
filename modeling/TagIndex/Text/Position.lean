/-! Lines and columns of a text. -/

namespace TagIndex.Text

def lineFeed : UInt8 := 10

/-- A place in a text for a reader: line and column, both from 1, the column counted in bytes. -/
structure Position where
  line : Nat
  column : Nat
deriving BEq, DecidableEq, Inhabited, Repr

/-- The position of a byte offset: one line more than there are line feeds before it, and one
column more than there are bytes since the last of them. -/
def positionAt (bytes : List UInt8) (offset : Nat) : Position :=
  let before := bytes.take offset
  ⟨before.count lineFeed + 1, (before.reverse.takeWhile (· ≠ lineFeed)).length + 1⟩

end TagIndex.Text
