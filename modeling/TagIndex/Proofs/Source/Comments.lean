import TagIndex.Proofs.Source.Acceptance

/-! Comments make no difference to what a file declares, nor to what is reported of it: a tree reads
like the tree without its comments, wherever the comments stand. -/

namespace TagIndex
open Text

namespace Tree

def isComment (t : Tree) : Bool := t.kind == "comment"

mutual

/-- The tree without the comments below its root. All other nodes keep their labels. -/
def withoutComments : Tree → Tree
  | .node l cs => .node l (dropComments cs)

def dropComments : List Tree → List Tree
  | [] => []
  | t :: ts => if t.isComment then dropComments ts else t.withoutComments :: dropComments ts

end

/-- Comments may stand anywhere, play no part in the node above them, and have no errors in them. -/
def CommentsApart (t : Tree) : Prop :=
  ∀ u ∈ t.preorder, u.isComment = true → u.label.extra = true ∧ u.field = none ∧ u.Clean

instance : DecidablePred CommentsApart := fun t => inferInstanceAs (Decidable (∀ u ∈ t.preorder, _))

variable {source : String} {t c : Tree}

theorem CommentsApart.child (h : t.CommentsApart) (child : c ∈ t.children) : c.CommentsApart :=
  fun u below => h u (mem_preorder_of_child child below)

theorem CommentsApart.comment (h : t.CommentsApart) (child : c ∈ t.children)
    (comment : c.isComment = true) : c.label.extra = true ∧ c.field = none ∧ c.Clean :=
  h c (mem_preorder_of_child child (self_mem_preorder c)) comment

theorem dropComments_eq_map (ts : List Tree) :
    dropComments ts = (ts.filter fun t => !t.isComment).map withoutComments := by
  induction ts with
  | nil => rfl
  | cons t ts ih => cases comment : t.isComment <;> simp [dropComments, comment, ih]

theorem children_withoutComments (t : Tree) : t.withoutComments.children =
    (t.children.filter fun c => !c.isComment).map withoutComments := by
  obtain ⟨l, cs⟩ := t
  exact dropComments_eq_map cs

@[simp] theorem label_withoutComments (t : Tree) : t.withoutComments.label = t.label := by
  cases t
  rfl

@[simp] theorem kind_withoutComments (t : Tree) : t.withoutComments.kind = t.kind := by
  simp [kind]

@[simp] theorem named_withoutComments (t : Tree) : t.withoutComments.named = t.named := by
  simp [named]

@[simp] theorem field_withoutComments (t : Tree) : t.withoutComments.field = t.field := by
  simp [field]

@[simp] theorem kindEnds_withoutComments (t : Tree) (ending : String) :
    t.withoutComments.kindEnds ending = t.kindEnds ending := by
  simp [kindEnds]

@[simp] theorem diagnose_withoutComments (t : Tree) (fault : Fault) :
    t.withoutComments.diagnose fault = t.diagnose fault := by
  simp [diagnose, position, start]

@[simp] theorem textIn_withoutComments (source : String) (t : Tree) :
    t.withoutComments.textIn source = t.textIn source := by
  simp [textIn, bytesIn]

@[simp] theorem fault_withoutComments (source : String) (t : Tree) :
    t.withoutComments.fault source = t.fault source := by
  simp [Tree.fault]

@[simp] theorem ident_withoutComments (source : String) (t : Tree) :
    t.withoutComments.ident source = t.ident source := by
  simp [ident, start]

theorem filter_withoutComments {p : Tree → Bool} (same : ∀ c, p c.withoutComments = p c)
    (passed : ∀ c ∈ t.children, c.isComment = true → p c = false) :
    t.withoutComments.children.filter p = (t.children.filter p).map withoutComments := by
  rw [children_withoutComments, List.filter_map, List.filter_filter]
  congr 1
  refine List.filter_congr fun c child => ?_
  cases comment : c.isComment
  · simp [same]
  · simp [passed c child comment]

theorem find?_withoutComments {p : Tree → Bool} (same : ∀ c, p c.withoutComments = p c)
    (passed : ∀ c ∈ t.children, c.isComment = true → p c = false) :
    t.withoutComments.children.find? p = (t.children.find? p).map withoutComments := by
  rw [← List.head?_filter, filter_withoutComments same passed, List.head?_map, List.head?_filter]

theorem fieldIdent_withoutComments (apart : t.CommentsApart) (field : String) :
    t.withoutComments.fieldIdent source field = t.fieldIdent source field := by
  have found : t.withoutComments.children.find? (·.field == some field) =
      (t.children.find? (·.field == some field)).map withoutComments := by
    refine find?_withoutComments (by simp) fun c child comment => ?_
    simp [(apart.comment child comment).2.1]
  rw [fieldIdent, fieldIdent, found]
  cases t.children.find? (·.field == some field) <;> simp

theorem packageName_withoutComments (t : Tree) :
    t.withoutComments.packageName source = t.packageName source := by
  have found : t.withoutComments.packageNode? = t.packageNode?.map withoutComments := by
    simp only [packageNode?, namedChildren, List.find?_filter]
    refine find?_withoutComments (by simp) fun c child comment => ?_
    simp [eq_of_beq comment]
  unfold packageNode? at found
  rw [packageName, packageName, found]
  cases t.namedChildren.find? (·.kind == "package_identifier") <;> simp

theorem typeNamesAt_of_isComment (comment : t.isComment = true) :
    typeNamesAt source t = .ok [] := by
  have kind : t.kind = "comment" := eq_of_beq comment
  simp [typeNamesAt, kind, Go.comment_ends kind]

theorem valueNamesAt_of_isComment {spec : String} (other : spec ≠ "comment")
    (comment : t.isComment = true) : valueNamesAt source spec t = .ok [] := by
  have kind : t.kind = "comment" := eq_of_beq comment
  simp [valueNamesAt, kind, Ne.symm other, Go.comment_ends kind]

theorem typeNames_withoutComments (apart : t.CommentsApart) :
    t.withoutComments.typeNames source = t.typeNames source := by
  induction t using Tree.induction with
  | node l cs ih =>
    rw [typeNames_eq_flatten, typeNames_eq_flatten, children_withoutComments]
    refine flatten_mapM_map_filter (fun c child => ?_) (fun c child comment => ?_)
    · have apart : c.CommentsApart := apart.child child
      simp [typeNamesAt, fieldIdent_withoutComments apart, ih c child apart]
    · exact typeNamesAt_of_isComment (by simpa using comment)

theorem listedNames_withoutComments (apart : t.CommentsApart) :
    t.withoutComments.listedNames = t.listedNames.map withoutComments := by
  refine filter_withoutComments (by simp) fun c child comment => ?_
  simp [(apart.comment child comment).2.1]

theorem valueNames_withoutComments {spec : String} (other : spec ≠ "comment")
    (apart : t.CommentsApart) :
    t.withoutComments.valueNames source spec = t.valueNames source spec := by
  induction t using Tree.induction with
  | node l cs ih =>
    rw [valueNames_eq_flatten, valueNames_eq_flatten, children_withoutComments]
    refine flatten_mapM_map_filter (fun c child => ?_) (fun c child comment => ?_)
    · have apart : c.CommentsApart := apart.child child
      have listed : c.withoutComments.listedNames.mapM (·.ident source) =
          c.listedNames.mapM (·.ident source) := by
        rw [listedNames_withoutComments apart]
        exact mapM_map_eq fun n _ => ident_withoutComments source n
      simp [valueNamesAt, listed, ih c child apart]
    · exact valueNamesAt_of_isComment other (by simpa using comment)

theorem decl_withoutComments (apart : t.CommentsApart) :
    t.withoutComments.decl source = t.decl source := by
  simp only [decl, kind_withoutComments, diagnose_withoutComments,
    fieldIdent_withoutComments apart, typeNames_withoutComments apart,
    valueNames_withoutComments (show "var_spec" ≠ "comment" by decide) apart,
    valueNames_withoutComments (show "const_spec" ≠ "comment" by decide) apart]

theorem topLevel_withoutComments {ts : List Tree} (apart : ∀ t ∈ ts, t.CommentsApart) :
    topLevel source (ts.map withoutComments) = topLevel source ts := by
  cases ts with
  | nil => rfl
  | cons t ts =>
    obtain ⟨-, rest⟩ := List.forall_mem_cons.1 apart
    have decls : (ts.map withoutComments).mapM (·.decl source) = ts.mapM (·.decl source) :=
      mapM_map_eq fun t listed => decl_withoutComments (rest t listed)
    simp [topLevel, packageName_withoutComments, decls]

theorem Clean.firstError? (h : t.Clean) : t.firstError? = none := by
  rw [firstError?_eq_find? h.flagged, List.find?_eq_none]
  simpa [Clean] using h

theorem firstErrorAmong?_dropComments {ts : List Tree}
    (passed : ∀ t ∈ ts, t.isComment = true → t.firstError? = none)
    (same : ∀ t ∈ ts, t.withoutComments.firstError? = t.firstError?.map withoutComments) :
    firstErrorAmong? (dropComments ts) = (firstErrorAmong? ts).map withoutComments := by
  induction ts with
  | nil => rfl
  | cons t ts ih =>
    obtain ⟨passedHere, passedLater⟩ := List.forall_mem_cons.1 passed
    obtain ⟨sameHere, sameLater⟩ := List.forall_mem_cons.1 same
    have rest := ih passedLater sameLater
    rw [dropComments, firstErrorAmong?, Option.orElse_eq_or, Option.map_or, ← rest]
    cases comment : t.isComment with
    | true => rw [if_pos rfl, passedHere comment, Option.map_none, Option.none_or]
    | false =>
      rw [if_neg Bool.false_ne_true, firstErrorAmong?, Option.orElse_eq_or, sameHere]

theorem firstError?_withoutComments (apart : t.CommentsApart) :
    t.withoutComments.firstError? = t.firstError?.map withoutComments := by
  induction t using Tree.induction with
  | node l cs ih =>
    have among : firstErrorAmong? (dropComments cs) =
        (firstErrorAmong? cs).map withoutComments := by
      refine firstErrorAmong?_dropComments (fun c child comment => ?_) (fun c child => ?_)
      · exact (apart.comment child comment).2.2.firstError?
      · exact ih c child (apart.child child)
    rw [withoutComments, Tree.firstError?, Tree.firstError?, among]
    split_ifs <;> rfl

theorem eq_root_of_isComment {u : Tree} (mem : u ∈ t.withoutComments.preorder)
    (comment : u.isComment = true) : u = t.withoutComments := by
  induction t using Tree.induction with
  | node l cs ih =>
    obtain root | ⟨c, child, below⟩ := mem_preorder.1 mem
    · exact root
    · rw [children_withoutComments] at child
      obtain ⟨c, kept, rfl⟩ := List.mem_map.1 child
      obtain ⟨child, other⟩ := List.mem_filter.1 kept
      rw [ih c child below, isComment, kind_withoutComments] at comment
      simp [isComment, comment] at other

theorem topLevelNodes_withoutComments (apart : t.CommentsApart) :
    t.withoutComments.topLevelNodes = t.topLevelNodes.map withoutComments := by
  simp only [topLevelNodes, namedChildren, List.filter_filter]
  refine filter_withoutComments (by simp) fun c child comment => ?_
  simp [(apart.comment child comment).1]

end Tree

open TagIndex.Tree

/-- A tree from which all comments below the root are taken away declares the same as before, or
the same is reported of it. -/
theorem comments_are_invisible {t : Tree} (apart : t.CommentsApart) (path source : String) :
    (∀ u ∈ t.withoutComments.preorder, u.isComment = true → u = t.withoutComments) ∧
    SourceFile.ofTree path source t.withoutComments = SourceFile.ofTree path source t := by
  refine ⟨fun u mem comment => eq_root_of_isComment mem comment, ?_⟩
  have nodes := topLevelNodes_withoutComments apart
  have top : topLevel source t.withoutComments.topLevelNodes = topLevel source t.topLevelNodes := by
    rw [nodes]
    refine topLevel_withoutComments fun c listed => apart.child ?_
    exact List.mem_of_mem_filter (List.mem_of_mem_filter listed)
  unfold topLevelNodes at top
  simp only [SourceFile.ofTree, top, firstError?_withoutComments apart]
  cases t.firstError? <;> simp

namespace Sample

def commentedText : String := "package /* a */ p\nconst (\n\tA, // b\n\tB = 1, 2\n)\n"

def comment (start : Place) (stop : Nat) : Tree :=
  .node ⟨"comment", true, none, start, stop, true, false, false, false⟩ []

def commentedTree : Tree := node "source_file" true none ⟨0, 0, 0⟩ 47 [
  node "package_clause" true none ⟨0, 0, 0⟩ 17 [
    node "package" false none ⟨0, 0, 0⟩ 7 [],
    comment ⟨8, 0, 8⟩ 15,
    node "package_identifier" true none ⟨16, 0, 16⟩ 17 []],
  node "const_declaration" true none ⟨18, 1, 0⟩ 46 [
    node "const" false none ⟨18, 1, 0⟩ 23 [],
    node "(" false none ⟨24, 1, 6⟩ 25 [],
    node "const_spec" true none ⟨27, 2, 1⟩ 44 [
      node "identifier" true (some "name") ⟨27, 2, 1⟩ 28 [],
      node "," false (some "name") ⟨28, 2, 2⟩ 29 [],
      comment ⟨30, 2, 4⟩ 34,
      node "identifier" true (some "name") ⟨36, 3, 1⟩ 37 [],
      node "=" false none ⟨38, 3, 3⟩ 39 [],
      node "expression_list" true (some "value") ⟨40, 3, 5⟩ 44 [
        node "int_literal" true none ⟨40, 3, 5⟩ 41 [],
        node "," false none ⟨41, 3, 6⟩ 42 [],
        node "int_literal" true none ⟨43, 3, 8⟩ 44 []]],
    node ")" false none ⟨45, 4, 0⟩ 46 []]]

theorem commentsApart : commentedTree.CommentsApart := by
  decide

end Sample

theorem comments_are_invisible_sample :
    (∀ u ∈ Sample.commentedTree.withoutComments.preorder, u.isComment = true →
      u = Sample.commentedTree.withoutComments) ∧
    SourceFile.ofTree "a.go" Sample.commentedText Sample.commentedTree.withoutComments =
      SourceFile.ofTree "a.go" Sample.commentedText Sample.commentedTree :=
  comments_are_invisible Sample.commentsApart "a.go" Sample.commentedText

/-- The names stand where they stood. -/
example : SourceFile.ofTree "a.go" Sample.commentedText Sample.commentedTree =
    .ok ⟨"a.go", ⟨"p", 1⟩, [.values [⟨"A", 3⟩, ⟨"B", 4⟩]]⟩ := by
  decide +kernel

end TagIndex
