/-! What a Go source file declares at its top level. -/

namespace TagIndex

structure Ident where
  name : String
  line : Nat
deriving BEq, DecidableEq, Inhabited, Repr

inductive Decl where
  | function (hasReceiver : Bool) (name : Ident)
  | imports
  | types (names : List Ident)
  | values (names : List Ident)
deriving BEq, DecidableEq, Inhabited, Repr

structure SourceFile where
  path : String
  package : Ident
  decls : List Decl
deriving BEq, DecidableEq, Inhabited, Repr

end TagIndex
