/-! Syntax trees as a reader of the language sees them: every node stands for a phrase or a token,
or for text that could not be read. -/

namespace TagIndex

structure Place where
  byte : Nat
  row : Nat
  column : Nat
deriving BEq, DecidableEq, Inhabited, Repr

structure NodeLabel where
  kind : String
  named : Bool
  field : Option String
  start : Place
  /-- Where its text ends, in bytes. -/
  stop : Nat
  extra : Bool
  error : Bool
  missing : Bool
  /-- There is an error here or below. -/
  hasError : Bool
deriving BEq, DecidableEq, Inhabited, Repr

inductive Tree where
  | node (label : NodeLabel) (children : List Tree)
deriving Inhabited, Repr

namespace Tree

def label : Tree → NodeLabel
  | node l _ => l

def children : Tree → List Tree
  | node _ cs => cs

def kind (t : Tree) : String := t.label.kind

def named (t : Tree) : Bool := t.label.named

def field (t : Tree) : Option String := t.label.field

def start (t : Tree) : Place := t.label.start

def kindEnds (t : Tree) (ending : String) : Bool := ending.toList.isSuffixOf t.kind.toList

def namedChildren (t : Tree) : List Tree := t.children.filter (·.named)

def bytesIn (source : String) (t : Tree) : List UInt8 :=
  (source.toByteArray.extract t.label.start.byte t.label.stop).data.toList

end Tree
end TagIndex
