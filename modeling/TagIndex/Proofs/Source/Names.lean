import TagIndex.Proofs.Data.Traversal
import TagIndex.Proofs.Go.Shape
import TagIndex.Proofs.Tree.Places

/-! The nodes of the names that a top-level node declares. Reading the node reads these nodes one
after the other and nothing else. -/

namespace TagIndex

def Decl.names : Decl → List Ident
  | .function _ name => [name]
  | .imports => []
  | .types names => names
  | .values names => names

namespace Tree

mutual

/-- What specifications below a node own, also if they stand in lists. -/
def gather (own : Tree → Option (List Tree)) (ending : String) : Tree → List Tree
  | .node _ cs => gatherAmong own ending cs

def gatherAmong (own : Tree → Option (List Tree)) (ending : String) : List Tree → List Tree
  | [] => []
  | t :: ts =>
    (if t.named then
      match own t with
      | some nodes => nodes
      | none => if t.kindEnds ending then t.gather own ending else []
    else []) ++ gatherAmong own ending ts

end

def nameNode? (t : Tree) : Option Tree := t.children.find? (·.field == some "name")

def listedNames (t : Tree) : List Tree :=
  t.children.filter fun c => c.field == some "name" && c.named

def typeSpecNames (t : Tree) : Option (List Tree) :=
  if t.kind = "type_spec" || t.kind = "type_alias" then some t.nameNode?.toList else none

def valueSpecNames (spec : String) (t : Tree) : Option (List Tree) :=
  if t.kind = spec then some t.listedNames else none

/-- The nodes of the names that a top-level node declares, in document order. -/
def declaredNames (t : Tree) : List Tree :=
  if t.kind = "type_declaration" then t.gather typeSpecNames "_list"
  else if t.kind = "var_declaration" then t.gather (valueSpecNames "var_spec") "_spec_list"
  else if t.kind = "const_declaration" then t.gather (valueSpecNames "const_spec") "_spec_list"
  else if t.kind = "import_declaration" then []
  else t.nameNode?.toList

def packageNode? (t : Tree) : Option Tree :=
  t.namedChildren.find? (·.kind == "package_identifier")

variable {source : String}

theorem fieldIdent_eq {t n : Tree} (h : t.nameNode? = some n) :
    t.fieldIdent source "name" = n.ident source := by
  unfold nameNode? at h
  simp [fieldIdent, h]

theorem packageName_eq {t n : Tree} (h : t.packageNode? = some n) :
    t.packageName source = n.ident source := by
  unfold packageNode? at h
  simp [packageName, h]

theorem valueNamesAmong_eq {spec : String} {ts : List Tree}
    (each : ∀ t ∈ ts, t.valueNames source spec =
      (t.gather (valueSpecNames spec) "_spec_list").mapM (·.ident source)) :
    valueNamesAmong source spec ts =
      (gatherAmong (valueSpecNames spec) "_spec_list" ts).mapM (·.ident source) := by
  induction ts with
  | nil => rfl
  | cons t ts ih =>
    obtain ⟨head, tail⟩ := List.forall_mem_cons.1 each
    rw [valueNamesAmong, gatherAmong, List.mapM_append, ih tail, valueSpecNames]
    cases t.named with
    | false => simp
    | true =>
      by_cases isSpec : t.kind = spec
      · simp [isSpec, listedNames]
      · cases ends : t.kindEnds "_spec_list" <;> simp [isSpec, head]

theorem valueNames_eq (spec : String) (t : Tree) : t.valueNames source spec =
    (t.gather (valueSpecNames spec) "_spec_list").mapM (·.ident source) := by
  induction t using Tree.induction with
  | node l cs ih =>
    rw [valueNames, gather]
    exact valueNamesAmong_eq ih

theorem typeNamesAmong_eq {ts : List Tree}
    (named : ∀ t ∈ ts, t.named = true → t.kind = "type_spec" ∨ t.kind = "type_alias" →
      ∃ n, t.nameNode? = some n)
    (flat : ∀ t ∈ ts, t.named = true → t.kindEnds "_list" = false) :
    typeNamesAmong source ts =
      (gatherAmong typeSpecNames "_list" ts).mapM (·.ident source) := by
  induction ts with
  | nil => rfl
  | cons t ts ih =>
    obtain ⟨head, tail⟩ := List.forall_mem_cons.1 named
    obtain ⟨noList, noLists⟩ := List.forall_mem_cons.1 flat
    rw [typeNamesAmong, gatherAmong, List.mapM_append, ih tail noLists, typeSpecNames]
    cases shown : t.named with
    | false => simp
    | true =>
      by_cases isSpec : t.kind = "type_spec" ∨ t.kind = "type_alias"
      · obtain ⟨n, found⟩ := head shown isSpec
        simp [isSpec, found, fieldIdent_eq found]
      · simp [isSpec, noList shown]

def typeNamesAt (source : String) (t : Tree) : Except Diagnostic (List Ident) :=
  if !t.named then .ok []
  else if t.kind = "type_spec" || t.kind = "type_alias" then
    (fun name => [name]) <$> t.fieldIdent source "name"
  else if t.kindEnds "_list" then t.typeNames source
  else .ok []

theorem typeNamesAmong_eq_flatten (source : String) (ts : List Tree) :
    typeNamesAmong source ts = List.flatten <$> ts.mapM (typeNamesAt source) := by
  induction ts with
  | nil => rfl
  | cons t ts ih =>
    have step : typeNamesAmong source (t :: ts) = typeNamesAt source t >>= fun names =>
        (names ++ ·) <$> typeNamesAmong source ts := by
      rw [typeNamesAmong, typeNamesAt]
      split_ifs <;> rfl
    rw [step, ih, flatten_mapM_cons]

theorem typeNames_eq_flatten (source : String) (t : Tree) :
    t.typeNames source = List.flatten <$> t.children.mapM (typeNamesAt source) := by
  obtain ⟨l, cs⟩ := t
  exact typeNamesAmong_eq_flatten source cs

def valueNamesAt (source spec : String) (t : Tree) : Except Diagnostic (List Ident) :=
  if !t.named then .ok []
  else if t.kind = spec then t.listedNames.mapM (·.ident source)
  else if t.kindEnds "_spec_list" then t.valueNames source spec
  else .ok []

theorem valueNamesAmong_eq_flatten (source spec : String) (ts : List Tree) :
    valueNamesAmong source spec ts = List.flatten <$> ts.mapM (valueNamesAt source spec) := by
  induction ts with
  | nil => rfl
  | cons t ts ih =>
    have step : valueNamesAmong source spec (t :: ts) = valueNamesAt source spec t >>= fun names =>
        (names ++ ·) <$> valueNamesAmong source spec ts := by
      rw [valueNamesAmong, valueNamesAt]
      split_ifs <;> rfl
    rw [step, ih, flatten_mapM_cons]

theorem valueNames_eq_flatten (source spec : String) (t : Tree) :
    t.valueNames source spec = List.flatten <$> t.children.mapM (valueNamesAt source spec) := by
  obtain ⟨l, cs⟩ := t
  exact valueNamesAmong_eq_flatten source spec cs

end Tree

namespace Tree

theorem mem_gather {own : Tree → Option (List Tree)} {ending : String} {t n : Tree}
    (h : n ∈ t.gather own ending) : ∃ c ∈ t.children, c.named = true ∧
      ((∃ nodes, own c = some nodes ∧ n ∈ nodes) ∨
        own c = none ∧ c.kindEnds ending = true ∧ n ∈ c.gather own ending) := by
  obtain ⟨l, cs⟩ := t
  rw [gather] at h
  change ∃ c ∈ cs, _
  induction cs with
  | nil => cases h
  | cons c cs ih =>
    rw [gatherAmong] at h
    obtain here | later := List.mem_append.1 h
    · refine ⟨c, List.mem_cons_self, ?_⟩
      cases named : c.named <;> cases owned : own c <;> cases ends : c.kindEnds ending <;>
        simp_all
    · obtain ⟨c', mem, found⟩ := ih later
      exact ⟨c', List.mem_cons_of_mem c mem, found⟩

theorem gatherAmong_eq_flatMap (own : Tree → Option (List Tree)) (ending : String)
    (ts : List Tree) : gatherAmong own ending ts = ts.flatMap fun t =>
      if t.named then (own t).getD (if t.kindEnds ending then t.gather own ending else [])
      else [] := by
  induction ts with
  | nil => rfl
  | cons t ts ih =>
    rw [gatherAmong, ih, List.flatMap_cons]
    cases own t <;> rfl

theorem toList_find?_sublist (p : Tree → Bool) (ts : List Tree) :
    (ts.find? p).toList.Sublist ts := by
  cases found : ts.find? p with
  | none => exact List.nil_sublist _
  | some n => exact List.singleton_sublist.2 (List.mem_of_find?_eq_some found)

theorem nameNode?_sublist (t : Tree) : t.nameNode?.toList.Sublist t.children :=
  toList_find?_sublist _ _

theorem packageNode?_sublist (t : Tree) : t.packageNode?.toList.Sublist t.children :=
  (toList_find?_sublist _ _).trans List.filter_sublist

/-- What a node owns is among its children. -/
def OwnsChildren (own : Tree → Option (List Tree)) : Prop :=
  ∀ t nodes, own t = some nodes → nodes.Sublist t.children

theorem ownsChildren_typeSpecNames : OwnsChildren typeSpecNames := by
  intro t nodes owned
  unfold typeSpecNames at owned
  split at owned
  · exact Option.some.inj owned ▸ t.nameNode?_sublist
  · cases owned

theorem ownsChildren_valueSpecNames (spec : String) : OwnsChildren (valueSpecNames spec) := by
  intro t nodes owned
  unfold valueSpecNames at owned
  split at owned
  · exact Option.some.inj owned ▸ List.filter_sublist
  · cases owned

theorem mem_preorder_of_gather {own : Tree → Option (List Tree)} {ending : String}
    (owns : OwnsChildren own) {t n : Tree} (h : n ∈ t.gather own ending) : n ∈ t.preorder := by
  induction t using Tree.induction with
  | node l cs ih =>
    obtain ⟨c, child, -, ⟨nodes, owned, mem⟩ | ⟨-, -, mem⟩⟩ := mem_gather h
    · exact mem_preorder_of_child child
        (mem_preorder_of_child ((owns c nodes owned).subset mem) (self_mem_preorder n))
    · exact mem_preorder_of_child child (ih c child mem)

theorem inOrder_gather {own : Tree → Option (List Tree)} {ending : String}
    (owns : OwnsChildren own) {t : Tree} (nested : t.Nested) :
    InOrder t.start.byte t.label.stop (t.gather own ending) := by
  induction t using Tree.induction with
  | node l cs ih =>
    rw [gather, gatherAmong_eq_flatMap]
    refine nested.children.flatMap fun c child => ?_
    cases c.named with
    | false => exact .nil
    | true =>
      cases owned : own c with
      | some nodes => exact (nested.child child).children.sublist (owns c nodes owned)
      | none =>
        cases c.kindEnds ending with
        | false => exact .nil
        | true => exact ih c child (nested.child child)

theorem mem_preorder_of_declaredNames {t n : Tree} (h : n ∈ t.declaredNames) : n ∈ t.preorder := by
  unfold declaredNames at h
  split at h
  · exact mem_preorder_of_gather ownsChildren_typeSpecNames h
  split at h
  · exact mem_preorder_of_gather (ownsChildren_valueSpecNames _) h
  split at h
  · exact mem_preorder_of_gather (ownsChildren_valueSpecNames _) h
  split at h
  · cases h
  · exact mem_preorder_of_child (t.nameNode?_sublist.subset h) (self_mem_preorder n)

theorem inOrder_declaredNames {t : Tree} (nested : t.Nested) :
    InOrder t.start.byte t.label.stop t.declaredNames := by
  unfold declaredNames
  split
  · exact inOrder_gather ownsChildren_typeSpecNames nested
  split
  · exact inOrder_gather (ownsChildren_valueSpecNames _) nested
  split
  · exact inOrder_gather (ownsChildren_valueSpecNames _) nested
  split
  · exact .nil
  · exact nested.children.sublist t.nameNode?_sublist

end Tree

namespace Tree

/-- No node stands for an error. -/
def Clean (t : Tree) : Prop := ∀ u ∈ t.preorder, u.isBad = false

instance : DecidablePred Clean := fun t => inferInstanceAs (Decidable (∀ u ∈ t.preorder, _))

theorem Clean.child {t c : Tree} (h : t.Clean) (mem : c ∈ t.children) : c.Clean :=
  fun u below => h u (mem_preorder_of_child mem below)

theorem Clean.flagged {t : Tree} (h : t.Clean) : t.Flagged := by
  rintro u mem - ⟨v, below, bad⟩
  simp [h v (mem_preorder_trans mem below)] at bad

theorem Clean.not_error {t : Tree} (h : t.Clean) : t.label.error = false :=
  (Bool.or_eq_false_iff.1 (h t (self_mem_preorder t))).1

end Tree

namespace Go
open TagIndex.Tree

variable {source kind : String} {t n : Tree}

theorem child_cases (h : IsPhrase source kind t) (clean : t.Clean) (mem : n ∈ t.children) :
    n ∈ t.parts ∨ n.label.extra = true ∧ n.kind = "comment" ∧ n.field = none :=
  part_or_comment h mem (clean.child mem).not_error

theorem exists_nameNode (listed : kind ∈ namedKinds) (h : IsPhrase source kind t)
    (clean : t.Clean) : ∃ n ∈ t.children, t.nameNode? = some n ∧ IsName source n := by
  obtain ⟨m, part, field, -⟩ := exists_name listed h
  have some_name : t.nameNode?.isSome := by
    simpa [nameNode?] using ⟨m, mem_children_of_mem_parts part, field⟩
  obtain ⟨n, found⟩ := Option.isSome_iff_exists.1 some_name
  have mem := List.mem_of_find?_eq_some found
  have field : n.field = some "name" := by simpa using List.find?_some found
  refine ⟨n, mem, found, ?_⟩
  obtain part | ⟨-, -, none⟩ := child_cases h clean mem
  · exact isName_of_field listed h part field
  · simp [none] at field

theorem exists_packageNode (h : IsPhrase source "package_clause" t) (clean : t.Clean) :
    ∃ n ∈ t.children, t.packageNode? = some n ∧ IsName source n := by
  obtain ⟨m, part, kind, named⟩ := exists_packageName h
  have some_name : t.packageNode?.isSome := by
    simpa [packageNode?, namedChildren] using ⟨m, mem_children_of_mem_parts part, named, kind⟩
  obtain ⟨n, found⟩ := Option.isSome_iff_exists.1 some_name
  obtain ⟨mem, named⟩ := List.mem_filter.1 (List.mem_of_find?_eq_some found)
  have kind : n.kind = "package_identifier" := by simpa using List.find?_some found
  refine ⟨n, mem, found, ?_⟩
  obtain part | ⟨-, comment, -⟩ := child_cases h clean mem
  · exact isName_of_packageName h part named
  · simp [comment] at kind

theorem isName_of_listedNames (listed : kind ∈ valueKinds) (h : IsPhrase source kind t)
    (clean : t.Clean) (mem : n ∈ t.listedNames) : IsName source n := by
  obtain ⟨child, shows⟩ := List.mem_filter.1 mem
  obtain ⟨field, named⟩ : n.field = some "name" ∧ n.named = true := by simpa using shows
  obtain part | ⟨-, -, none⟩ := child_cases h clean child
  · exact isName_of_listed listed h part field named
  · simp [none] at field

theorem member_or_comment {members : List String} (listed : (kind, members) ∈ groups)
    (h : IsPhrase source kind t) (clean : t.Clean) (mem : n ∈ t.children) (named : n.named = true) :
    n.kind ∈ members ∧ IsPhrase source n.kind n ∨ n.kind = "comment" := by
  obtain part | ⟨-, comment, -⟩ := child_cases h clean mem
  · exact .inl (member_of_group listed h part named)
  · exact .inr comment

theorem comment_ends (h : t.kind = "comment") :
    t.kindEnds "_list" = false ∧ t.kindEnds "_spec_list" = false := by
  rw [kindEnds, kindEnds, h]
  decide

theorem isName_of_typeNames (h : IsPhrase source "type_declaration" t) (clean : t.Clean)
    (mem : n ∈ t.gather typeSpecNames "_list") : IsName source n := by
  obtain ⟨c, child, named, found⟩ := mem_gather mem
  obtain ⟨member, phrase⟩ | comment := member_or_comment type_group h clean child named
  · have spec : c.kind = "type_spec" ∨ c.kind = "type_alias" := by simpa using member
    have listed : c.kind ∈ namedKinds := by
      obtain kind | kind := spec <;> simp [kind, namedKinds]
    obtain ⟨n', -, name, isName⟩ := exists_nameNode listed phrase (clean.child child)
    obtain rfl : n = n' := by simpa [typeSpecNames, spec, name] using found
    exact isName
  · simp [typeSpecNames, comment, comment_ends comment] at found

theorem isName_of_valueSpecs {spec : String} (listed : (kind, [spec]) ∈ groups)
    (value : spec ∈ valueKinds) (h : IsPhrase source kind t) (clean : t.Clean)
    (mem : n ∈ t.gather (valueSpecNames spec) "_spec_list") : IsName source n := by
  obtain ⟨c, child, named, found⟩ := mem_gather mem
  obtain ⟨member, phrase⟩ | comment := member_or_comment listed h clean child named
  · obtain rfl : c.kind = spec := by simpa using member
    exact isName_of_listedNames value phrase (clean.child child)
      (by simpa [valueSpecNames] using found)
  · obtain rfl | rfl : spec = "var_spec" ∨ spec = "const_spec" := by simpa [valueKinds] using value
    all_goals simp [valueSpecNames, comment, comment_ends comment] at found

theorem isName_of_varNames (h : IsPhrase source "var_declaration" t) (clean : t.Clean)
    (mem : n ∈ t.gather (valueSpecNames "var_spec") "_spec_list") : IsName source n := by
  obtain ⟨c, child, named, found⟩ := mem_gather mem
  obtain ⟨member, phrase⟩ | comment := member_or_comment var_group h clean child named
  · obtain spec | list : c.kind = "var_spec" ∨ c.kind = "var_spec_list" := by simpa using member
    · rw [spec] at phrase
      exact isName_of_listedNames (by decide) phrase (clean.child child)
        (by simpa [valueSpecNames, spec] using found)
    · rw [list] at phrase
      have single : ("var_spec_list", ["var_spec"]) ∈ groups := by decide
      refine isName_of_valueSpecs single (by decide) phrase (clean.child child) ?_
      exact (found.resolve_left (by simp [valueSpecNames, list])).2.2
  · simp [valueSpecNames, comment, comment_ends comment] at found

theorem exists_functionName
    (kind : t.kind = "function_declaration" ∨ t.kind = "method_declaration")
    (h : IsPhrase source t.kind t) (clean : t.Clean) :
    ∃ n, t.nameNode? = some n ∧ t.declaredNames = [n] ∧ IsName source n := by
  have listed : t.kind ∈ namedKinds := by
    obtain kind | kind := kind <;> simp [kind, namedKinds]
  obtain ⟨n, -, name, isName⟩ := exists_nameNode listed h clean
  refine ⟨n, name, ?_, isName⟩
  obtain kind | kind := kind <;> simp [declaredNames, kind, name]

theorem isName_of_declaredNames (listed : t.kind ∈ declarationKinds) (h : IsPhrase source t.kind t)
    (clean : t.Clean) (mem : n ∈ t.declaredNames) : IsName source n := by
  simp only [declarationKinds, List.mem_cons, List.not_mem_nil, or_false, ← or_assoc] at listed
  obtain ((((kind | kind) | kind) | kind) | kind) := listed
  · obtain ⟨n', -, names, isName⟩ := exists_functionName kind h clean
    obtain rfl : n = n' := by simpa [names] using mem
    exact isName
  · rw [kind] at h
    exact isName_of_typeNames h clean (by simpa [declaredNames, kind] using mem)
  · rw [kind] at h
    exact isName_of_varNames h clean (by simpa [declaredNames, kind] using mem)
  · rw [kind] at h
    have single : ("const_declaration", ["const_spec"]) ∈ groups := by decide
    exact isName_of_valueSpecs single (by decide) h clean
      (by simpa [declaredNames, kind] using mem)
  · simp [declaredNames, kind] at mem

theorem typeNames_eq (h : IsPhrase source "type_declaration" t) (clean : t.Clean) :
    t.typeNames source = (t.gather typeSpecNames "_list").mapM (·.ident source) := by
  have cases : ∀ c ∈ t.children, c.named = true →
      (c.kind = "type_spec" ∨ c.kind = "type_alias") ∧ IsPhrase source c.kind c ∨
        c.kind = "comment" := by
    intro c child named
    simpa using member_or_comment type_group h clean child named
  obtain ⟨l, cs⟩ := t
  rw [typeNames, gather]
  refine typeNamesAmong_eq (fun c child named spec => ?_) (fun c child named => ?_)
  · obtain ⟨-, phrase⟩ | comment := cases c child named
    · have listed : c.kind ∈ namedKinds := by
        obtain kind | kind := spec <;> simp [kind, namedKinds]
      obtain ⟨n, -, name, -⟩ := exists_nameNode listed phrase (clean.child child)
      exact ⟨n, name⟩
    · simp [comment] at spec
  · obtain ⟨kind | kind, -⟩ | comment := cases c child named
    · rw [kindEnds, kind]
      decide
    · rw [kindEnds, kind]
      decide
    · exact (comment_ends comment).1

theorem exists_decl (listed : t.kind ∈ declarationKinds) (h : IsPhrase source t.kind t)
    (clean : t.Clean) {names : List Ident}
    (read : t.declaredNames.mapM (·.ident source) = .ok names) :
    ∃ decl, t.decl source = .ok decl ∧ decl.names = names := by
  simp only [declarationKinds, List.mem_cons, List.not_mem_nil, or_false, ← or_assoc] at listed
  obtain ((((kind | kind) | kind) | kind) | kind) := listed
  · obtain ⟨n', name, declared, -⟩ := exists_functionName kind h clean
    obtain ⟨i, ident, rfl⟩ : ∃ i, n'.ident source = .ok i ∧ names = [i] := by
      rw [declared] at read
      cases ident : n'.ident source <;> simp_all [bind, Except.bind, pure, Except.pure]
    obtain kind | kind := kind
    · exact ⟨.function false i, by simp [decl, kind, fieldIdent_eq name, ident], rfl⟩
    · exact ⟨.function true i, by simp [decl, kind, fieldIdent_eq name, ident], rfl⟩
  · have read : t.typeNames source = .ok names := by
      rw [kind] at h
      rw [typeNames_eq h clean]
      simpa [declaredNames, kind] using read
    exact ⟨.types names, by simp [decl, kind, read], rfl⟩
  · have read : t.valueNames source "var_spec" = .ok names := by
      rw [valueNames_eq]
      simpa [declaredNames, kind] using read
    exact ⟨.values names, by simp [decl, kind, read], rfl⟩
  · have read : t.valueNames source "const_spec" = .ok names := by
      rw [valueNames_eq]
      simpa [declaredNames, kind] using read
    exact ⟨.values names, by simp [decl, kind, read], rfl⟩
  · obtain rfl : [] = names := by simpa [declaredNames, kind, pure, Except.pure] using read
    exact ⟨.imports, by simp [decl, kind], rfl⟩

end Go
end TagIndex
