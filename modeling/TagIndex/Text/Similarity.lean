/-! How alike two words are, by the measure of Jaro: letters agree if they are equal and stand
close to each other, and letters that agree in another order count for less. -/

namespace TagIndex.Text

abbrev Marked := List (Char × Bool)

/-- Mark the first free letter equal to `c` whose place, counted from `place` on, is between `lo`
and `hi`. -/
def Marked.take? (c : Char) (lo hi : Nat) : Nat → Marked → Option Marked
  | _, [] => none
  | place, (d, taken) :: rest =>
    if lo ≤ place && place < hi && d == c && !taken then some ((d, true) :: rest)
    else (Marked.take? c lo hi (place + 1) rest).map ((d, taken) :: ·)

def agreementRange (a b : List Char) : Nat := max a.length b.length / 2 - 1

/-- Pair the letters of the first word from `place` on with letters of the second. The result is
the paired letters of the first in order, and the second word with its marks. -/
def pairLetters (range : Nat) : Nat → List Char → Marked → List Char × Marked
  | _, [], b => ([], b)
  | place, c :: rest, b =>
    match Marked.take? c (place - range) (place + range + 1) 0 b with
    | some b =>
      let (paired, b) := pairLetters range (place + 1) rest b
      (c :: paired, b)
    | none => pairLetters range (place + 1) rest b

def similarity (a b : List Char) : Rat :=
  let (inA, marked) := pairLetters (agreementRange a b) 0 a (b.map fun c => (c, false))
  let inB := (marked.filter (·.2)).map (·.1)
  let agreeing := inA.length
  let swapped := ((inA.zip inB).filter fun (c, d) => c != d).length / 2
  if a.isEmpty && b.isEmpty then 1
  else if agreeing = 0 then 0
  else ((agreeing : Rat) / a.length + (agreeing : Rat) / b.length +
    ((agreeing - swapped : Nat) : Rat) / agreeing) / 3

end TagIndex.Text
