/-! Sets of characters, held as inclusive ranges of code points. -/

namespace TagIndex.Text

/-- A set of code points: ascending inclusive ranges that neither overlap nor touch. -/
structure CharSet where
  ranges : List (Nat × Nat)
deriving BEq, DecidableEq, Hashable, Inhabited

namespace CharSet

def maxCode : Nat := 0x10FFFF

def empty : CharSet := ⟨[]⟩

def joinRanges : List (Nat × Nat) → List (Nat × Nat)
  | [] => []
  | (lo, hi) :: rest =>
    match joinRanges rest with
    | [] => [(lo, hi)]
    | (lo', hi') :: rest' =>
      if lo' ≤ hi + 1 then (lo, max hi hi') :: rest' else (lo, hi) :: (lo', hi') :: rest'

def ofRanges (ranges : List (Nat × Nat)) : CharSet :=
  ⟨joinRanges (ranges.mergeSort fun a b => a.1 ≤ b.1)⟩

def single (c : Char) : CharSet := ⟨[(c.toNat, c.toNat)]⟩

def ofText (s : String) : CharSet := ofRanges (s.toList.map fun c => (c.toNat, c.toNat))

def range (lo hi : Char) : CharSet := ⟨[(lo.toNat, hi.toNat)]⟩

def union (a b : CharSet) : CharSet := ofRanges (a.ranges ++ b.ranges)

def gapsFrom (start : Nat) : List (Nat × Nat) → List (Nat × Nat)
  | [] => if start ≤ maxCode then [(start, maxCode)] else []
  | (lo, hi) :: rest =>
    if start < lo then (start, lo - 1) :: gapsFrom (hi + 1) rest else gapsFrom (hi + 1) rest

def complement (s : CharSet) : CharSet := ⟨gapsFrom 0 s.ranges⟩

def contains (s : CharSet) (code : Nat) : Bool :=
  s.ranges.any fun (lo, hi) => lo ≤ code && code ≤ hi

instance : Union CharSet := ⟨union⟩

def size (s : CharSet) : Nat := s.ranges.foldl (fun n (lo, hi) => n + (hi + 1 - lo)) 0

end CharSet
end TagIndex.Text
