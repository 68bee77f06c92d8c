import TagIndex.Source.Decl
import TagIndex.Source.Diagnostic
import TagIndex.Text.Blank
import TagIndex.Tree

/-! Reading the package clause and the top-level declarations off a syntax tree. -/

namespace TagIndex
open Text

def Tree.position (t : Tree) : Position := ⟨t.start.row + 1, t.start.column + 1⟩

def Tree.diagnose (t : Tree) (fault : Fault) : Diagnostic := ⟨t.position, fault⟩

mutual

/-- The first node in document order that stands for an error or a missing token. Only nodes that
say so are searched. -/
def Tree.firstError? : Tree → Option Tree
  | .node l cs =>
    if l.error || l.missing then some (.node l cs)
    else if l.hasError then Tree.firstErrorAmong? cs
    else none

def Tree.firstErrorAmong? : List Tree → Option Tree
  | [] => none
  | t :: ts => t.firstError?.orElse fun _ => Tree.firstErrorAmong? ts

end

def snippetLength : Nat := 24

/-- The first line of a text that is not blank, trimmed and cut to length. -/
def snippet (text : String) : Option String :=
  match ((lines text.toList).map trim).find? (!·.isEmpty) with
  | some line => some (String.ofList (line.take snippetLength))
  | none => none

def Tree.textIn (source : String) (t : Tree) : Except Utf8.Flaw String :=
  String.ofList <$> Utf8.decode (t.bytesIn source)

def Tree.fault (source : String) (t : Tree) : Fault :=
  if t.label.missing then .missing t.kind
  else .unexpected (snippet ((t.textIn source).toOption.getD ""))

def Tree.ident (source : String) (t : Tree) : Except Diagnostic Ident :=
  match t.textIn source with
  | .ok name => .ok ⟨name, t.start.row + 1⟩
  | .error flaw => .error (t.diagnose (.illegalName flaw))

def Tree.fieldIdent (source : String) (t : Tree) (field : String) : Except Diagnostic Ident :=
  match t.children.find? (·.field == some field) with
  | some name => name.ident source
  | none => .error (t.diagnose (.noField field t.kind))

mutual

/-- The names of all type specifications among the children of a node, also in lists. -/
def Tree.typeNames (source : String) : Tree → Except Diagnostic (List Ident)
  | .node _ cs => Tree.typeNamesAmong source cs

def Tree.typeNamesAmong (source : String) : List Tree → Except Diagnostic (List Ident)
  | [] => .ok []
  | t :: ts => do
    let names ←
      if !t.named then pure []
      else if t.kind = "type_spec" || t.kind = "type_alias" then
        (fun name => [name]) <$> t.fieldIdent source "name"
      else if t.kindEnds "_list" then t.typeNames source
      else pure []
    return names ++ (← Tree.typeNamesAmong source ts)

end

mutual

/-- The names of all specifications of one kind among the children of a node, also in lists of
specifications. The commas between names belong to the field as well and are passed over. -/
def Tree.valueNames (source spec : String) : Tree → Except Diagnostic (List Ident)
  | .node _ cs => Tree.valueNamesAmong source spec cs

def Tree.valueNamesAmong (source spec : String) : List Tree → Except Diagnostic (List Ident)
  | [] => .ok []
  | t :: ts => do
    let names ←
      if !t.named then pure []
      else if t.kind = spec then
        (t.children.filter fun c => c.field == some "name" && c.named).mapM (·.ident source)
      else if t.kindEnds "_spec_list" then t.valueNames source spec
      else pure []
    return names ++ (← Tree.valueNamesAmong source spec ts)

end

def Tree.decl (source : String) (t : Tree) : Except Diagnostic Decl :=
  if t.kind = "function_declaration" then .function false <$> t.fieldIdent source "name"
  else if t.kind = "method_declaration" then .function true <$> t.fieldIdent source "name"
  else if t.kind = "type_declaration" then .types <$> t.typeNames source
  else if t.kind = "var_declaration" then .values <$> t.valueNames source "var_spec"
  else if t.kind = "const_declaration" then .values <$> t.valueNames source "const_spec"
  else if t.kind = "import_declaration" then .ok .imports
  else .error (t.diagnose (.notDeclaration t.kind))

def Tree.packageName (source : String) (t : Tree) : Except Diagnostic Ident :=
  match t.namedChildren.find? (·.kind == "package_identifier") with
  | some name => name.ident source
  | none => .error (t.diagnose .noPackageName)

def topLevel (source : String) : List Tree → Except Diagnostic (Ident × List Decl)
  | [] => .error ⟨⟨1, 1⟩, .noPackage⟩
  | t :: ts =>
    if t.kind = "package_clause" then do
      let package ← t.packageName source
      let decls ← ts.mapM (·.decl source)
      return (package, decls)
    else .error (t.diagnose (.beforePackage t.kind))

def firstNul? (bytes : List UInt8) : Option Nat := bytes.findIdx? (· == 0)

/-- What a file declares, by its text and the tree of it. Faults are looked for in this order: a
null character, an error in the tree, then the package clause and the declarations one by one. -/
def SourceFile.ofTree (path source : String) (tree : Tree) : Except Diagnostic SourceFile :=
  let bytes := Utf8.encode source.toList
  match firstNul? bytes with
  | some offset => .error ⟨positionAt bytes offset, .nulCharacter⟩
  | none =>
    match tree.firstError? with
    | some bad => .error (bad.diagnose (bad.fault source))
    | none => do
      let nodes := tree.namedChildren.filter fun t => !t.label.extra
      let (package, decls) ← topLevel source nodes
      return ⟨path, package, decls⟩

def decodeText (bytes : List UInt8) : Except Diagnostic String :=
  match Utf8.decode bytes with
  | .ok text => .ok (String.ofList text)
  | .error flaw => .error ⟨positionAt bytes flaw.offset, .illegalEncoding⟩

def SourceFile.read (parse : String → Tree) (path : String) (bytes : List UInt8) :
    Except Diagnostic SourceFile := do
  let source ← decodeText bytes
  SourceFile.ofTree path source (parse source)

end TagIndex
