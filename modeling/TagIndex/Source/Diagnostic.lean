import TagIndex.Text.Position
import TagIndex.Text.Utf8

/-! What can be wrong with a source file. -/

namespace TagIndex
open Text

inductive Fault where
  | illegalEncoding
  | nulCharacter
  | missing (kind : String)
  /-- Text that fits nowhere, by its snippet; none if there is nothing to show. -/
  | unexpected (snippet : Option String)
  | beforePackage (kind : String)
  | noPackage
  | notDeclaration (kind : String)
  | noPackageName
  | noField (field kind : String)
  | illegalName (flaw : Utf8.Flaw)
deriving BEq, DecidableEq, Inhabited, Repr

def Fault.message : Fault → String
  | illegalEncoding => "illegal UTF-8 encoding"
  | nulCharacter => "illegal character NUL"
  | missing kind => "expected '" ++ kind ++ "'"
  | unexpected (some snippet) => "unexpected " ++ snippet
  | unexpected none => "unexpected token"
  | beforePackage kind => "expected 'package', found " ++ kind
  | noPackage => "expected 'package', found 'EOF'"
  | notDeclaration kind => "expected declaration, found " ++ kind
  | noPackageName => "expected package name"
  | noField field kind => "expected " ++ field ++ " in " ++ kind
  | illegalName flaw => flaw.message

structure Diagnostic where
  position : Position
  fault : Fault
deriving BEq, DecidableEq, Inhabited, Repr

def Diagnostic.message (path : String) (d : Diagnostic) : String :=
  path ++ ":" ++ toString d.position.line ++ ":" ++ toString d.position.column ++ ": " ++
    d.fault.message

end TagIndex
