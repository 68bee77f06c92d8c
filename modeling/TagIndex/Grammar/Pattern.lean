import TagIndex.Text.CharSet

/-! Regular patterns over characters, and the lexemes that a grammar builds from them. -/

namespace TagIndex.Grammar
open Text

inductive Pattern (σ : Type := CharSet) where
  | empty
  | one (set : σ)
  | andThen (first second : Pattern σ)
  | either (left right : Pattern σ)
  | many (body : Pattern σ)
deriving BEq, Hashable, Inhabited

namespace Pattern

variable {σ τ : Type}

def map (f : σ → τ) : Pattern σ → Pattern τ
  | empty => empty
  | one s => one (f s)
  | andThen p q => andThen (p.map f) (q.map f)
  | either p q => either (p.map f) (q.map f)
  | many p => many (p.map f)

def sets : Pattern σ → List σ
  | empty => []
  | one s => [s]
  | andThen p q => p.sets ++ q.sets
  | either p q => p.sets ++ q.sets
  | many p => p.sets

def nullable : Pattern σ → Bool
  | empty => true
  | one _ => false
  | andThen p q => p.nullable && q.nullable
  | either p q => p.nullable || q.nullable
  | many _ => true

def seq : List Pattern → Pattern
  | [] => empty
  | [p] => p
  | p :: ps => andThen p (seq ps)

def anyOf : List Pattern → Pattern
  | [] => empty
  | [p] => p
  | p :: ps => either p (anyOf ps)

def text (s : String) : Pattern := seq (s.toList.map fun c => one (.single c))

def among (s : String) : Pattern := one (.ofText s)

def noneOf (s : String) : Pattern := one (CharSet.ofText s).complement

def opt (p : Pattern) : Pattern := either p empty

def many1 (p : Pattern) : Pattern := andThen p (many p)

def times (n : Nat) (p : Pattern) : Pattern := seq (List.replicate n p)

end Pattern

structure Lexeme where
  spelling : Option String
  pattern : Pattern
  adjacent : Bool
  /-- A token of higher rank is preferred even if it is shorter. -/
  rank : Int
deriving BEq, Hashable, Inhabited

namespace Lexeme

def ofText (s : String) : Lexeme := ⟨some s, .text s, false, 0⟩

def ofPattern (p : Pattern) : Lexeme := ⟨none, p, false, 0⟩

/-- Between tokens of equal rank and length, fixed spellings win over patterns, and
adjacent tokens over others. -/
def specificity (l : Lexeme) : Nat :=
  (if l.spelling.isSome then 2 else 0) + (if l.adjacent then 1 else 0)

end Lexeme
end TagIndex.Grammar
