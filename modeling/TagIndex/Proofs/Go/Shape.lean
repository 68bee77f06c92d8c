import TagIndex.Go.Language
import TagIndex.Proofs.Grammar.Derivation

/-! What the grammar of Go says about package clauses and declarations: where the names stand, and
what else stands beside them. -/

namespace TagIndex.Go
open Grammar

abbrev IsPhrase (source name : String) (t : Tree) : Prop := Grammar.IsPhrase language source name t

theorem hiddenRoles_spec : ∀ role ∈ language.hiddenRoles,
    role.field ∈ [none, some "initializer", some "alias", some "value"] ∧
    role.aliasName ∈ [none, some "identifier", some "type_identifier", some "field_identifier",
      some "package_identifier"] := by
  decide +kernel

theorem hidden_field : ∀ role ∈ language.hiddenRoles, role.field ≠ some "name" := by
  intro role mem given
  simpa [given] using (hiddenRoles_spec role mem).1

/-- The rules for names. Where a name stands for a type, a field or a package, its node says so. -/
def nameRules : List (String × String) := [("identifier", "identifier"),
  ("_type_identifier", "type_identifier"), ("_field_identifier", "field_identifier"),
  ("_package_identifier", "package_identifier")]

structure IsName (source : String) (t : Tree) : Prop where
  named : t.named = true
  spelled : (Lexeme.ofPattern identifier).Spelled source t

theorem identifier_token : language.rule? "identifier" = some (Phrase.tok identifier) := rfl

theorem shown_identifier {source : String} {role : Role} {ts : List Tree}
    (h : Derives language source role (Phrase.ref "identifier") ts) : ∃ n, ts = [n] ∧
      n.belongs ∧ n.field = role.field ∧ n.kind = role.aliasName.getD "identifier" ∧
        IsName source n := by
  obtain ⟨n, rfl, part, shows, spelled⟩ := h.shown (.inr rfl)
  exact ⟨n, rfl, part, shows.field, shows.kind, by simpa using shows.named,
    spelled _ _ identifier_token rfl⟩

theorem shown_called {source rule kind : String} {role : Role} {ts : List Tree}
    (body : language.rule? rule = some (.called kind (Phrase.ref "identifier")))
    (hidden : isHidden rule = true) (unnamed : role.aliasName = none)
    (h : Derives language source role (Phrase.ref rule) ts) :
    ∃ n, ts = [n] ∧ n.belongs ∧ n.field = role.field ∧ n.kind = kind ∧ IsName source n := by
  cases h with
  | tokenRule _ _ _ shown => simp [unnamed, hidden] at shown
  | rule _ _ _ shown => simp [unnamed, hidden] at shown
  | hiddenRule body' _ _ derived =>
    obtain rfl := Option.some.inj (body.symm.trans body')
    cases derived with
    | called derived => simpa [Role.within, unnamed] using shown_identifier derived

theorem shown_name {source rule kind : String} {role : Role} {ts : List Tree}
    (mem : (rule, kind) ∈ nameRules) (unnamed : role.aliasName = none)
    (h : Derives language source role (Phrase.ref rule) ts) :
    ∃ n, ts = [n] ∧ n.belongs ∧ n.field = role.field ∧ n.kind = kind ∧ IsName source n := by
  simp only [nameRules, List.mem_cons, Prod.mk.injEq, List.not_mem_nil, or_false] at mem
  obtain ⟨rfl, rfl⟩ | ⟨rfl, rfl⟩ | ⟨rfl, rfl⟩ | ⟨rfl, rfl⟩ := mem
  · simpa [unnamed] using shown_identifier h
  · exact shown_called rfl rfl unnamed h
  · exact shown_called rfl rfl unnamed h
  · exact shown_called rfl rfl unnamed h

theorem derives_name {source rule : String} {role : Role} {n : Tree} (kind : String)
    (text : List Char) (mem : (rule, kind) ∈ nameRules) (unnamed : role.aliasName = none)
    (part : n.belongs = true)
    (shows : n.kind = kind ∧ n.named = true ∧ n.field = role.field) (leaf : n.children = [])
    (bytes : n.bytesIn source = Text.Utf8.encode text) (spelled : identifier.Matches text) :
    Derives language source role (Phrase.ref rule) [n] := by
  have token (role : Role) (shown : Shows n "identifier" true role) :
      Derives language source role (Phrase.ref "identifier") [n] :=
    .tokenRule identifier_token rfl part (.inr rfl) shown
      ⟨leaf, .inr ⟨text, bytes, .inl spelled⟩⟩
  obtain ⟨shown, named, field⟩ := shows
  simp only [nameRules, List.mem_cons, Prod.mk.injEq, List.not_mem_nil, or_false] at mem
  obtain ⟨rfl, rfl⟩ | ⟨rfl, rfl⟩ | ⟨rfl, rfl⟩ | ⟨rfl, rfl⟩ := mem
  · exact token role ⟨by simp [shown, unnamed], by simp [named], field⟩
  all_goals
    refine .hiddenRule rfl unnamed rfl (.called (token _ ⟨shown, by simp [named], ?_⟩))
    simp [field, Role.within]

def isNameLeaf : Leaf → Bool
  | .rule rule => nameRules.any (·.1 == rule)
  | .token _ => false

def isTokenLeaf : Leaf → Bool
  | .rule _ => false
  | .token _ => true

def nameRule? : Phrase → Option String
  | .prec _ _ r => nameRule? r
  | .seq rs => rs.findSome? fun
    | .field name (.leaf (.rule rule)) => if name = "name" then some rule else none
    | _ => none
  | _ => none

def namedKinds : List String :=
  ["function_declaration", "method_declaration", "type_spec", "type_alias"]

def valueKinds : List String := ["var_spec", "const_spec"]

theorem namedKinds_rule : ∀ kind ∈ namedKinds, ∃ body ∈ language.rule? kind,
    ∀ place ∈ body.places, place.1.field = some "name" →
      place.1.aliasName = none ∧ isNameLeaf place.2 = true := by
  decide

theorem valueKinds_rule : ∀ kind ∈ valueKinds, ∃ body ∈ language.rule? kind,
    ∀ place ∈ body.places, place.1.field = some "name" →
      place.1.aliasName = none ∧ (isNameLeaf place.2 || isTokenLeaf place.2) = true := by
  decide

theorem nameRule?_rule : ∀ kind ∈ namedKinds, ∃ entry ∈ nameRules,
    (language.rule? kind).bind nameRule? = some entry.1 := by
  decide

variable {source kind : String} {t n : Tree}

theorem isName_of_comes {role : Role} {a : Leaf} (comes : Comes language source role a n)
    (unnamed : role.aliasName = none) (leaf : isNameLeaf a = true) : IsName source n := by
  cases a with
  | token l => cases leaf
  | rule rule =>
    obtain ⟨⟨rule', kind'⟩, listed, same⟩ := List.any_eq_true.1 leaf
    obtain rfl : rule' = rule := by simpa using same
    obtain ⟨ts, among, derived⟩ := comes.derived
    obtain ⟨n', rfl, -, -, -, isName⟩ := shown_name listed unnamed derived
    exact List.mem_singleton.1 among ▸ isName

theorem anonymous_of_comes {role : Role} {a : Leaf} (comes : Comes language source role a n)
    (unnamed : role.aliasName = none) (leaf : isTokenLeaf a = true) : n.named = false := by
  cases a with
  | token l => simp [comes.token.named, unnamed]
  | rule rule => cases leaf

theorem exists_place_of_field {body : Phrase} (rule : language.rule? kind = some body)
    (h : IsPhrase source kind t) (part : n ∈ t.parts) (field : n.field = some "name") :
    ∃ place ∈ body.places, place.1.field = some "name" ∧
      Comes language source place.1 place.2 n := by
  obtain ⟨place, mem, comes⟩ := (h.derives rule).comesFrom n part
  rw [Role.empty_within] at comes
  exact ⟨place, mem, comes.field_eq hidden_field field, comes⟩

theorem isName_of_field (listed : kind ∈ namedKinds) (h : IsPhrase source kind t)
    (part : n ∈ t.parts) (field : n.field = some "name") : IsName source n := by
  obtain ⟨body, rule, leaves⟩ := namedKinds_rule kind listed
  obtain ⟨place, mem, given, comes⟩ := exists_place_of_field rule h part field
  obtain ⟨unnamed, leaf⟩ := leaves place mem given
  exact isName_of_comes comes unnamed leaf

theorem isName_of_listed (listed : kind ∈ valueKinds) (h : IsPhrase source kind t)
    (part : n ∈ t.parts) (field : n.field = some "name") (named : n.named = true) :
    IsName source n := by
  obtain ⟨body, rule, leaves⟩ := valueKinds_rule kind listed
  obtain ⟨place, mem, given, comes⟩ := exists_place_of_field rule h part field
  obtain ⟨unnamed, leaf⟩ := leaves place mem given
  obtain name | token := Bool.or_eq_true_iff.1 leaf
  · exact isName_of_comes comes unnamed name
  · simp [anonymous_of_comes comes unnamed token] at named

theorem derives_of_nameRule? {role : Role} {body : Phrase} {rule : String} {ts : List Tree}
    (found : nameRule? body = some rule) (h : Derives language source role body ts) :
    ∃ us, us ⊆ ts ∧
      Derives language source (role.within ⟨none, some "name"⟩) (Phrase.ref rule) us := by
  induction body using nameRule?.induct generalizing ts with
  | case1 level assoc r ih =>
    cases h with
    | prec derived => exact ih found derived
  | case2 rs =>
    obtain ⟨r, mem, here⟩ := List.exists_of_findSome?_eq_some found
    obtain ⟨us, sub, derived⟩ := h.part mem
    split at here
    · split at here
      · rename_i name rule same
        obtain rfl := Option.some.inj here
        cases derived with
        | field derived => exact ⟨us, sub, same ▸ derived⟩
      · cases here
    · cases here
  | case3 => simp [nameRule?] at found

theorem exists_name (listed : kind ∈ namedKinds) (h : IsPhrase source kind t) :
    ∃ n ∈ t.parts, n.field = some "name" ∧ n.named = true := by
  obtain ⟨-, body, rule, -, derived⟩ := h
  obtain ⟨⟨rule', kind'⟩, mem, found⟩ := nameRule?_rule kind listed
  obtain ⟨us, sub, name⟩ := derives_of_nameRule? (by simpa [rule] using found) derived
  obtain ⟨n, rfl, -, field, -, isName⟩ := shown_name mem rfl name
  exact ⟨n, sub (List.mem_singleton_self n), field, isName.named⟩

theorem package_clause_rule : language.rule? "package_clause" =
    some (.seq [Phrase.lit "package", Phrase.ref "_package_identifier"]) := rfl

theorem exists_packageName (h : IsPhrase source "package_clause" t) :
    ∃ n ∈ t.parts, n.kind = "package_identifier" ∧ n.named = true := by
  obtain ⟨us, sub, name⟩ :=
    (h.derives package_clause_rule).part (r := Phrase.ref "_package_identifier") (by simp)
  have listed : ("_package_identifier", "package_identifier") ∈ nameRules := by decide
  obtain ⟨n, rfl, -, -, kind, isName⟩ := shown_name listed rfl name
  exact ⟨n, sub (List.mem_singleton_self n), kind, isName.named⟩

theorem isName_of_packageName (h : IsPhrase source "package_clause" t) (part : n ∈ t.parts)
    (named : n.named = true) : IsName source n := by
  obtain ⟨place, mem, comes⟩ := (h.derives package_clause_rule).comesFrom n part
  have leaves : ∀ place ∈ Rule.places (.seq [Phrase.lit "package",
      Phrase.ref "_package_identifier"]), (Role.within {} place.1).aliasName = none ∧
        (isNameLeaf place.2 || isTokenLeaf place.2) = true := by
    decide
  obtain ⟨unnamed, leaf⟩ := leaves place mem
  obtain name | token := Bool.or_eq_true_iff.1 leaf
  · exact isName_of_comes comes unnamed name
  · simp [anonymous_of_comes comes unnamed token] at named

theorem part_or_comment {c : Tree} (h : IsPhrase source kind t) (mem : c ∈ t.children)
    (clean : c.label.error = false) :
    c ∈ t.parts ∨ c.label.extra = true ∧ c.kind = "comment" ∧ c.field = none := by
  cases part : c.belongs with
  | true => exact .inl (List.mem_filter.2 ⟨mem, part⟩)
  | false =>
    obtain error | ⟨extra, name, listed, shows, -⟩ := h.between c mem part
    · simp [error] at clean
    · obtain rfl : name = "comment" := by simpa [language] using listed
      exact .inr ⟨extra, shows.kind, shows.field⟩

/-- The rules whose nodes stand below a declaration that may be a group, or below a group. -/
def groups : List (String × List String) := [
  ("type_declaration", ["type_spec", "type_alias"]),
  ("var_declaration", ["var_spec", "var_spec_list"]),
  ("var_spec_list", ["var_spec"]),
  ("const_declaration", ["const_spec"])]

theorem type_group : ("type_declaration", ["type_spec", "type_alias"]) ∈ groups := by
  decide

theorem var_group : ("var_declaration", ["var_spec", "var_spec_list"]) ∈ groups := by
  decide

def isRuleAmong (rules : List String) : Leaf → Bool
  | .rule rule => rules.contains rule
  | .token _ => false

theorem groups_rule : ∀ group ∈ groups, ∃ body ∈ language.rule? group.1,
    ∀ place ∈ body.places, place.1.aliasName = none ∧
      (isRuleAmong group.2 place.2 || isTokenLeaf place.2) = true := by
  decide

theorem members_shown : ∀ group ∈ groups, ∀ rule ∈ group.2, isHidden rule = false ∧
    ∃ body ∈ language.rule? rule, language.soleToken? body = none := by
  decide

theorem member_of_group {members : List String} (listed : (kind, members) ∈ groups)
    (h : IsPhrase source kind t) (part : n ∈ t.parts) (named : n.named = true) :
    n.kind ∈ members ∧ IsPhrase source n.kind n := by
  obtain ⟨body, rule, leaves⟩ := groups_rule _ listed
  obtain ⟨⟨role, a⟩, mem, comes⟩ := (h.derives rule).comesFrom n part
  rw [Role.empty_within] at comes
  obtain ⟨unnamed, leaf⟩ := leaves _ mem
  obtain member | token := Bool.or_eq_true_iff.1 leaf
  · cases a with
    | token l => cases member
    | rule rule =>
      have member : rule ∈ members := by simpa [isRuleAmong] using member
      obtain ⟨shown, body', rule', whole⟩ := members_shown _ listed rule member
      obtain ⟨rfl, phrase⟩ := comes.shown unnamed shown
      exact ⟨member, phrase body' rule' whole⟩
  · simp [anonymous_of_comes comes unnamed token] at named

def declarationKinds : List String := ["function_declaration", "method_declaration",
  "type_declaration", "var_declaration", "const_declaration", "import_declaration"]

/-- The tree is one of a Go text, unless nothing could be made of the text. -/
def Shaped (source : String) (tree : Tree) : Prop :=
  tree.label.error = true ∨ Derives language source {} (Phrase.ref "source_file") [tree]

theorem source_file_rule : ∃ body ∈ language.rule? "source_file",
    language.soleToken? body = none ∧ ∀ place ∈ body.places, place.1.aliasName = none := by
  decide

theorem topLevel_rule : ∀ kind ∈ "package_clause" :: declarationKinds,
    (∃ body ∈ language.rule? kind, language.soleToken? body = none) ∧
    some kind ∉ [none, some "identifier", some "type_identifier", some "field_identifier",
      some "package_identifier"] := by
  decide

theorem Shaped.isPhrase {tree : Tree} (h : Shaped source tree)
    (clean : tree.label.error = false) : IsPhrase source "source_file" tree := by
  obtain error | derived := h
  · simp [error] at clean
  · obtain ⟨place, mem, comes⟩ := derived.comesFrom tree (List.mem_singleton_self tree)
    obtain rfl : place = ({}, .rule "source_file") := by simpa [Phrase.ref, Rule.places] using mem
    obtain ⟨body, rule, whole, -⟩ := source_file_rule
    exact (comes.shown rfl rfl).2 body rule whole

theorem isPhrase_of_topLevel (h : IsPhrase source "source_file" t) (part : n ∈ t.parts)
    (named : n.named = true) (kind : n.kind ∈ "package_clause" :: declarationKinds) :
    IsPhrase source n.kind n := by
  obtain ⟨body, rule, -, unaliased⟩ := source_file_rule
  obtain ⟨place, mem, comes⟩ := (h.derives rule).comesFrom n part
  obtain ⟨⟨body', rule', whole⟩, noAlias⟩ := topLevel_rule n.kind kind
  refine comes.isPhrase named ?_ (fun inner mem given => ?_) rule' whole
  · simp [unaliased place mem]
  · exact noAlias (given ▸ (hiddenRoles_spec inner mem).2)

end TagIndex.Go
