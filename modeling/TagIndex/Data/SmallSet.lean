/-! Sets of numbers below 128. -/

namespace TagIndex

structure SmallSet where
  low : UInt64
  high : UInt64
deriving BEq, DecidableEq, Hashable, Inhabited

namespace SmallSet

def empty : SmallSet := ⟨0, 0⟩

instance : EmptyCollection SmallSet := ⟨empty⟩

/-- Membership; numbers from 128 on are never members. -/
@[inline] def contains (s : SmallSet) (i : Nat) : Bool :=
  if i < 64 then (s.low >>> i.toUInt64) &&& 1 == 1
  else if i < 128 then (s.high >>> (i - 64).toUInt64) &&& 1 == 1
  else false

@[inline] def insert (s : SmallSet) (i : Nat) : SmallSet :=
  if i < 64 then { s with low := s.low ||| (1 <<< i.toUInt64) }
  else if i < 128 then { s with high := s.high ||| (1 <<< (i - 64).toUInt64) }
  else s

@[inline] def union (a b : SmallSet) : SmallSet := ⟨a.low ||| b.low, a.high ||| b.high⟩

@[inline] def inter (a b : SmallSet) : SmallSet := ⟨a.low &&& b.low, a.high &&& b.high⟩

@[inline] def diff (a b : SmallSet) : SmallSet :=
  ⟨a.low &&& ~~~b.low, a.high &&& ~~~b.high⟩

@[inline] def isEmpty (s : SmallSet) : Bool := s.low == 0 && s.high == 0

@[inline] def meets (a b : SmallSet) : Bool := !(a.inter b).isEmpty

instance : Union SmallSet := ⟨union⟩

instance : Inter SmallSet := ⟨inter⟩

instance : SDiff SmallSet := ⟨diff⟩

def ofList (l : List Nat) : SmallSet := l.foldl insert empty

def toList (s : SmallSet) : List Nat := (List.range 128).filter s.contains

end SmallSet
end TagIndex
