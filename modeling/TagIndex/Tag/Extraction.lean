import TagIndex.Source.Decl
import TagIndex.Tag.Basic
import TagIndex.Text.Lowercase

/-! The tags of a source file. -/

namespace TagIndex

/-- A name is private to its package if it begins with a lowercase character. -/
def isPrivate (name : String) : Bool := name.toList.head?.any Text.isLowercase

/-- A name as it is seen from other packages; private names stay bare. -/
def qualify (package name : String) : String :=
  if isPrivate name then name else package ++ "." ++ name

/-- The tags of a declaration. Methods and types keep their bare names. -/
def Decl.tags (file package : String) : Decl → List Tag
  | .function true n => [⟨n.name, file, n.line, .function⟩]
  | .function false n => [⟨qualify package n.name, file, n.line, .function⟩]
  | .imports => []
  | .types ns => ns.map fun n => ⟨n.name, file, n.line, .type⟩
  | .values ns => ns.map fun n => ⟨qualify package n.name, file, n.line, .value⟩

def SourceFile.tags (f : SourceFile) : List Tag :=
  ⟨f.package.name, f.path, f.package.line, .package⟩ ::
    f.decls.flatMap (·.tags f.path f.package.name)

end TagIndex
