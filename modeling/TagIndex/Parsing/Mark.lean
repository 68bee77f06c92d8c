/-! Places in a text. -/

namespace TagIndex.Parsing

/-- A place in a text, counted in characters, in bytes, and as a row with a column in bytes. All
counts start at zero. -/
structure Mark where
  index : Nat
  byte : Nat
  row : Nat
  column : Nat
deriving BEq, DecidableEq, Inhabited, Repr

namespace Mark

def first : Mark := ⟨0, 0, 0, 0⟩

@[inline] def advance (m : Mark) (c : Char) : Mark :=
  let width := c.utf8Size
  if c = '\n' then ⟨m.index + 1, m.byte + width, m.row + 1, 0⟩
  else ⟨m.index + 1, m.byte + width, m.row, m.column + width⟩

end Mark
end TagIndex.Parsing
