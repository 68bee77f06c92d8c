import TagIndex.Tag.Basic
import TagIndex.Text.Order

/-! Tag files: a header line and the records in ascending order. -/

namespace TagIndex
open Text

def tagFileHeader : String := "!_TAG_FILE_SORTED\t1\t"

structure TagList where
  lines : List String := []
deriving BEq, DecidableEq, Inhabited, Repr

namespace TagList

def extend (l : TagList) (tags : List Tag) : TagList := ⟨l.lines ++ tags.map (·.text)⟩

def size (l : TagList) : Nat := l.lines.length

def sorted (l : TagList) : List String := l.lines.mergeSort bytesLe

def fileLines (l : TagList) : List String := tagFileHeader :: l.sorted

end TagList

def lineBytes (line : String) : List UInt8 := Utf8.encode line.toList ++ [10]

/-- A place to write to. One with limited room takes what fits and then fails. -/
structure Sink where
  room : Option Nat
  failure : String
deriving BEq, DecidableEq, Inhabited, Repr

structure Written where
  bytes : List UInt8
  failure : Option String
deriving BEq, DecidableEq, Inhabited, Repr

def Sink.unlimited : Sink := ⟨none, ""⟩

/-- Write pieces one after the other, up to the first that does not fit. -/
def Sink.write (s : Sink) : List (List UInt8) → Written
  | [] => ⟨[], none⟩
  | piece :: rest =>
    match s.room with
    | none =>
      let w := s.write rest
      ⟨piece ++ w.bytes, w.failure⟩
    | some n =>
      if piece.length ≤ n then
        let w := Sink.write { s with room := some (n - piece.length) } rest
        ⟨piece ++ w.bytes, w.failure⟩
      else ⟨piece.take n, some s.failure⟩

def TagList.pieces (l : TagList) : List (List UInt8) := l.fileLines.map lineBytes

def TagList.writeTo (l : TagList) (s : Sink) : Written := s.write l.pieces

def TagList.fileBytes (l : TagList) : List UInt8 := (l.writeTo .unlimited).bytes

end TagIndex
