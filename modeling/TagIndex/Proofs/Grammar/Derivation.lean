import TagIndex.Grammar.Rule
import TagIndex.Proofs.Grammar.Pattern
import TagIndex.Text.Utf8
import TagIndex.Tree
import Mathlib.Data.List.Basic
import Mathlib.Data.Option.Basic

/-! The trees that a grammar gives to texts. A node for a rule has below it what the rule derives,
with comments and skipped text in between; hidden rules put their parts in the node around them. -/

namespace TagIndex

/-- A node that is part of a phrase. Others stand between the parts. -/
def Tree.belongs (t : Tree) : Bool := !t.label.extra && !t.label.error

def Tree.parts (t : Tree) : List Tree := t.children.filter Tree.belongs

theorem Tree.mem_children_of_mem_parts {t c : Tree} (h : c ∈ t.parts) : c ∈ t.children :=
  List.mem_of_mem_filter h

namespace Grammar
open Text

structure Lexeme.Spelled (source : String) (l : Lexeme) (t : Tree) : Prop where
  leaf : t.children = []
  spelled : t.label.missing = true ∨ ∃ text, t.bytesIn source = Utf8.encode text ∧
    (l.pattern.Matches text ∨
      text = [] ∧ t.start.byte = source.utf8ByteSize ∧ l.pattern.Matches ['\x00'])

structure Role where
  aliasName : Option String := none
  field : Option String := none
deriving DecidableEq, Inhabited, Repr

def Role.within (outer inner : Role) : Role :=
  ⟨inner.aliasName <|> outer.aliasName, inner.field <|> outer.field⟩

@[simp] theorem Role.empty_within (r : Role) : Role.within {} r = r := by
  simp [within]

@[simp] theorem Role.within_empty (r : Role) : r.within {} = r := by
  simp [within]

theorem Role.within_assoc (a b c : Role) : (a.within b).within c = a.within (b.within c) := by
  simp [within, Option.or_assoc]

mutual

def Rule.places {α : Type} : Rule α → List (Role × α)
  | .blank => []
  | .leaf a => [({}, a)]
  | .choice rs => Rule.placesAmong rs
  | .seq rs => Rule.placesAmong rs
  | .repeat1 r => r.places
  | .prec _ _ r => r.places
  | .weigh _ r => r.places
  | .called name r => r.places.map fun (role, a) => (Role.within ⟨some name, none⟩ role, a)
  | .field name r => r.places.map fun (role, a) => (Role.within ⟨none, some name⟩ role, a)

def Rule.placesAmong {α : Type} : List (Rule α) → List (Role × α)
  | [] => []
  | r :: rs => r.places ++ Rule.placesAmong rs

end

namespace Description

def rule? (d : Description) (name : String) : Option Phrase := d.rules.lookup name

def tokens (d : Description) : List Lexeme :=
  d.rules.flatMap fun (_, r) => r.places.filterMap fun
    | (_, .token l) => some l
    | _ => none

/-- The token that makes up a whole rule. A spelled token that other rules mention as well keeps a
node of its own below the rule's; a token without spelling has no node of its own in any case. -/
def soleToken? (d : Description) : Phrase → Option Lexeme
  | .leaf (.token l) =>
    if l.spelling.isNone || (d.tokens.filter (· == l)).length = 1 then some l else none
  | _ => none

end Description

def isHidden (name : String) : Bool := name.toList.head? == some '_'

structure Shows (t : Tree) (kind : String) (named : Bool) (role : Role) : Prop where
  kind : t.kind = role.aliasName.getD kind
  named : t.named = (named || role.aliasName.isSome)
  field : t.field = role.field

theorem Shows.alias_or_kind {t : Tree} {kind : String} {named : Bool} {role : Role}
    (h : Shows t kind named role) :
    role.aliasName = some t.kind ∨ t.kind = kind ∧ t.named = named := by
  cases given : role.aliasName with
  | none => exact .inr ⟨by simpa [given] using h.kind, by simpa [given] using h.named⟩
  | some a => exact .inl (by simpa [given, eq_comm] using h.kind)

structure Extra (d : Description) (source : String) (t : Tree) : Prop where
  extra : t.label.extra = true
  shows : ∃ name ∈ d.extras, Shows t name true {} ∧
    ∃ l, (d.rule? name).bind d.soleToken? = some l ∧ l.Spelled source t

/-- Skipped text or an extra token, if it is no part of a phrase. -/
def Interspersed (d : Description) (source : String) (t : Tree) : Prop :=
  ∀ c ∈ t.children, c.belongs = false → c.label.error = true ∨ Extra d source c

inductive Derives (d : Description) (source : String) : Role → Phrase → List Tree → Prop
  | blank {role : Role} : Derives d source role .blank []
  | token {role : Role} {l : Lexeme} {t : Tree} (part : t.belongs)
      (shown : role.aliasName.isSome ∨ l.spelling.isSome)
      (shows : Shows t (l.spelling.getD "") false role) (spelled : l.Spelled source t) :
      Derives d source role (.leaf (.token l)) [t]
  | hiddenToken {role : Role} {l : Lexeme} (unnamed : role.aliasName = none)
      (unspelled : l.spelling = none) : Derives d source role (.leaf (.token l)) []
  | tokenRule {role : Role} {name : String} {body : Phrase} {l : Lexeme} {t : Tree}
      (rule : d.rule? name = some body) (sole : d.soleToken? body = some l)
      (part : t.belongs)
      (shown : role.aliasName.isSome ∨ isHidden name = false)
      (shows : Shows t name true role) (spelled : l.Spelled source t) :
      Derives d source role (.leaf (.rule name)) [t]
  | rule {role : Role} {name : String} {body : Phrase} {t : Tree}
      (rule : d.rule? name = some body) (sole : d.soleToken? body = none)
      (part : t.belongs)
      (shown : role.aliasName.isSome ∨ isHidden name = false)
      (shows : Shows t name true role) (between : Interspersed d source t)
      (derived : Derives d source {} body t.parts) : Derives d source role (.leaf (.rule name)) [t]
  | hiddenRule {role : Role} {name : String} {body : Phrase} {ts : List Tree}
      (rule : d.rule? name = some body) (unnamed : role.aliasName = none)
      (hidden : isHidden name = true) (derived : Derives d source role body ts) :
      Derives d source role (.leaf (.rule name)) ts
  | choice {role : Role} {r : Phrase} {rs : List Phrase} {ts : List Tree} (chosen : r ∈ rs)
      (derived : Derives d source role r ts) : Derives d source role (.choice rs) ts
  | done {role : Role} : Derives d source role (.seq []) []
  | next {role : Role} {r : Phrase} {rs : List Phrase} {ts us : List Tree}
      (first : Derives d source role r ts) (rest : Derives d source role (.seq rs) us) :
      Derives d source role (.seq (r :: rs)) (ts ++ us)
  | once {role : Role} {r : Phrase} {ts : List Tree} (derived : Derives d source role r ts) :
      Derives d source role (.repeat1 r) ts
  | again {role : Role} {r : Phrase} {ts us : List Tree} (first : Derives d source role r ts)
      (rest : Derives d source role (.repeat1 r) us) : Derives d source role (.repeat1 r) (ts ++ us)
  | prec {role : Role} {level : Int} {assoc : Option Assoc} {r : Phrase} {ts : List Tree}
      (derived : Derives d source role r ts) : Derives d source role (.prec level assoc r) ts
  | weigh {role : Role} {weight : Int} {r : Phrase} {ts : List Tree}
      (derived : Derives d source role r ts) : Derives d source role (.weigh weight r) ts
  | called {role : Role} {name : String} {r : Phrase} {ts : List Tree}
      (derived : Derives d source (role.within ⟨some name, none⟩) r ts) :
      Derives d source role (.called name r) ts
  | field {role : Role} {name : String} {r : Phrase} {ts : List Tree}
      (derived : Derives d source (role.within ⟨none, some name⟩) r ts) :
      Derives d source role (.field name r) ts

theorem interspersed_of_belongs {d : Description} {source : String} {t : Tree}
    (h : ∀ c ∈ t.children, c.belongs = true) : Interspersed d source t :=
  fun c mem apart => absurd (h c mem) (by simp [apart])

theorem derives_lit {d : Description} {source s : String} {role : Role} {t : Tree}
    (part : t.belongs = true) (shows : Shows t s false role) (leaf : t.children = [])
    (text : t.bytesIn source = Utf8.encode s.toList) :
    Derives d source role (Phrase.lit s) [t] :=
  .token part (.inr rfl) shows ⟨leaf, .inr ⟨_, text, .inl (Pattern.matches_text s)⟩⟩

theorem Rule.mem_placesAmong {α : Type} {rs : List (Rule α)} {place : Role × α} :
    place ∈ Rule.placesAmong rs ↔ ∃ r ∈ rs, place ∈ r.places := by
  induction rs with
  | nil => simp [Rule.placesAmong]
  | cons r rs ih => simp [Rule.placesAmong, ih]

variable {d : Description} {source : String}

structure IsPhrase (d : Description) (source name : String) (t : Tree) : Prop where
  between : Interspersed d source t
  derived : ∃ body, d.rule? name = some body ∧ d.soleToken? body = none ∧
    Derives d source {} body t.parts

structure IsNode (d : Description) (source : String) (role : Role) (a : Leaf) (t : Tree) :
    Prop where
  field : t.field = role.field
  kind : t.named = true → role.aliasName = some t.kind ∨ a = .rule t.kind
  phrase : ∀ name body, a = .rule name → d.rule? name = some body → d.soleToken? body = none →
    IsPhrase d source name t

/-- What hidden rules say about their leaves. -/
def Description.hiddenRoles (d : Description) : List Role :=
  (d.rules.filter fun entry => isHidden entry.1).flatMap fun entry => entry.2.places.map (·.1)

theorem Description.mem_hiddenRoles {name : String} {body : Phrase} {place : Role × Leaf}
    (rule : d.rule? name = some body) (hidden : isHidden name = true)
    (mem : place ∈ body.places) : place.1 ∈ d.hiddenRoles := by
  have entry : (name, body) ∈ d.rules := by
    obtain ⟨before, after, split, -⟩ := List.lookup_eq_some_iff.1 rule
    simp [split]
  exact List.mem_flatMap.2 ⟨_, List.mem_filter.2 ⟨entry, hidden⟩, List.mem_map_of_mem mem⟩

structure Description.Inherits (d : Description) (outer inner : Role) : Prop where
  field : ∀ f, inner.field = some f → outer.field = some f ∨
    ∃ role ∈ d.hiddenRoles, role.field = some f
  aliasName : ∀ a, inner.aliasName = some a → outer.aliasName = some a ∨
    ∃ role ∈ d.hiddenRoles, role.aliasName = some a

theorem Description.Inherits.refl (role : Role) : d.Inherits role role :=
  ⟨fun _ => .inl, fun _ => .inl⟩

theorem Description.Inherits.hidden {outer role inner : Role} (mem : role ∈ d.hiddenRoles)
    (h : d.Inherits (outer.within role) inner) : d.Inherits outer inner where
  field f hf := by
    obtain same | hidden := h.field f hf
    · obtain own | ⟨-, around⟩ := (Option.orElse_eq_some _ _ _).1 same
      · exact .inr ⟨role, mem, own⟩
      · exact .inl around
    · exact .inr hidden
  aliasName a ha := by
    obtain same | hidden := h.aliasName a ha
    · obtain own | ⟨-, around⟩ := (Option.orElse_eq_some _ _ _).1 same
      · exact .inr ⟨role, mem, own⟩
      · exact .inl around
    · exact .inr hidden

structure Comes (d : Description) (source : String) (role : Role) (a : Leaf) (t : Tree) :
    Prop where
  derived : ∃ ts, t ∈ ts ∧ Derives d source role (.leaf a) ts
  node : ∃ inner b, d.Inherits role inner ∧ IsNode d source inner b t

def ComesFrom (d : Description) (source : String) (role : Role) (r : Phrase) (t : Tree) : Prop :=
  ∃ place ∈ r.places, Comes d source (role.within place.1) place.2 t

theorem ComesFrom.leaf {role : Role} {a : Leaf} {t : Tree} (h : Comes d source role a t) :
    ComesFrom d source role (.leaf a) t :=
  ⟨({}, a), by simp [Rule.places], by simpa using h⟩

theorem ComesFrom.mono {role : Role} {r r' : Phrase} {t : Tree}
    (h : ComesFrom d source role r t) (sub : ∀ place ∈ r.places, place ∈ r'.places) :
    ComesFrom d source role r' t := by
  obtain ⟨place, mem, comes⟩ := h
  exact ⟨place, sub place mem, comes⟩

theorem Derives.comesFrom {role : Role} {r : Phrase} {ts : List Tree}
    (h : Derives d source role r ts) : ∀ t ∈ ts, ComesFrom d source role r t := by
  induction h with
  | blank => simp
  | @token role l t part shown shows spelled =>
    simp only [List.mem_singleton, forall_eq]
    refine .leaf ⟨⟨[t], by simp, .token part shown shows spelled⟩, role, .token l, .refl _,
      shows.field, ?_, nofun⟩
    intro named
    obtain given | ⟨-, anonymous⟩ := shows.alias_or_kind
    · exact .inl given
    · simp [anonymous] at named
  | hiddenToken => simp
  | @tokenRule role name body l t rule sole part shown shows spelled =>
    simp only [List.mem_singleton, forall_eq]
    refine .leaf ⟨⟨[t], by simp, .tokenRule rule sole part shown shows spelled⟩, role, .rule name,
      .refl _, shows.field, fun _ => shows.alias_or_kind.imp id fun same => by rw [same.1], ?_⟩
    rintro _ other ⟨⟩ rule' sole'
    simp_all
  | @rule role name body t rule sole part shown shows between derived =>
    simp only [List.mem_singleton, forall_eq]
    refine .leaf ⟨⟨[t], by simp, .rule rule sole part shown shows between derived⟩, role,
      .rule name, .refl _, shows.field,
      fun _ => shows.alias_or_kind.imp id fun same => by rw [same.1], ?_⟩
    rintro _ _ ⟨⟩ - -
    exact ⟨between, body, rule, sole, derived⟩
  | @hiddenRule role name body ts rule unnamed hidden derived ih =>
    intro t ht
    -- What was known of the node inside the hidden rule is kept, and its role gets longer.
    obtain ⟨place, mem, -, inner, b, inherits, node⟩ := ih t ht
    exact .leaf ⟨⟨ts, ht, .hiddenRule rule unnamed hidden derived⟩, inner, b,
      inherits.hidden (Description.mem_hiddenRoles rule hidden mem), node⟩
  | choice chosen derived ih =>
    exact fun t ht => (ih t ht).mono fun place mem => Rule.mem_placesAmong.2 ⟨_, chosen, mem⟩
  | done => simp
  | next first rest ih ihs =>
    intro t ht
    obtain ht | ht := List.mem_append.1 ht
    · exact (ih t ht).mono fun place mem => List.mem_append_left _ mem
    · exact (ihs t ht).mono fun place mem => List.mem_append_right _ mem
  | once derived ih => exact ih
  | again first rest ih ihs =>
    intro t ht
    obtain ht | ht := List.mem_append.1 ht
    · exact ih t ht
    · exact ihs t ht
  | prec derived ih => exact ih
  | weigh derived ih => exact ih
  | called derived ih =>
    intro t ht
    obtain ⟨place, mem, comes⟩ := ih t ht
    exact ⟨_, List.mem_map_of_mem mem, by rwa [← Role.within_assoc]⟩
  | field derived ih =>
    intro t ht
    obtain ⟨place, mem, comes⟩ := ih t ht
    exact ⟨_, List.mem_map_of_mem mem, by rwa [← Role.within_assoc]⟩

variable {role : Role} {t : Tree} {ts : List Tree}

theorem IsPhrase.derives {name : String} {body : Phrase} (h : IsPhrase d source name t)
    (rule : d.rule? name = some body) : Derives d source {} body t.parts := by
  obtain ⟨-, body', rule', -, derived⟩ := h
  exact Option.some.inj (rule'.symm.trans rule) ▸ derived

theorem Comes.field_eq {a : Leaf} {f : String} (h : Comes d source role a t)
    (unhidden : ∀ inner ∈ d.hiddenRoles, inner.field ≠ some f) (field : t.field = some f) :
    role.field = some f := by
  obtain ⟨inner, _, inherits, node⟩ := h.node
  obtain outer | ⟨hidden, mem, given⟩ := inherits.field f (node.field ▸ field)
  · exact outer
  · exact absurd given (unhidden hidden mem)

theorem Comes.isPhrase {a : Leaf} {body : Phrase} (h : Comes d source role a t)
    (named : t.named = true) (unaliased : role.aliasName ≠ some t.kind)
    (unhidden : ∀ inner ∈ d.hiddenRoles, inner.aliasName ≠ some t.kind)
    (rule : d.rule? t.kind = some body) (whole : d.soleToken? body = none) :
    IsPhrase d source t.kind t := by
  obtain ⟨inner, _, inherits, node⟩ := h.node
  obtain aliased | rfl := node.kind named
  · obtain outer | ⟨hidden, mem, given⟩ := inherits.aliasName _ aliased
    · exact absurd outer unaliased
    · exact absurd given (unhidden hidden mem)
  · exact node.phrase _ body rfl rule whole

theorem Comes.token {l : Lexeme} (h : Comes d source role (.token l) t) :
    Shows t (l.spelling.getD "") false role := by
  obtain ⟨ts, mem, derived⟩ := h.derived
  cases derived with
  | token part shown shows spelled => exact List.mem_singleton.1 mem ▸ shows
  | hiddenToken => cases mem

theorem Comes.shown {name : String} (h : Comes d source role (.rule name) t)
    (unnamed : role.aliasName = none) (shown : isHidden name = false) :
    t.kind = name ∧ ∀ body, d.rule? name = some body → d.soleToken? body = none →
      IsPhrase d source name t := by
  obtain ⟨ts, mem, derived⟩ := h.derived
  cases derived with
  | tokenRule rule sole _ _ shows _ =>
    obtain rfl := List.mem_singleton.1 mem
    refine ⟨by simpa [unnamed] using shows.kind, fun body rule' sole' => ?_⟩
    obtain rfl := Option.some.inj (rule.symm.trans rule')
    simp [sole'] at sole
  | rule rule sole _ _ shows between derived =>
    obtain rfl := List.mem_singleton.1 mem
    exact ⟨by simpa [unnamed] using shows.kind, fun _ _ _ => ⟨between, _, rule, sole, derived⟩⟩
  | hiddenRule _ _ hidden _ => simp [shown] at hidden

theorem Derives.shown {name : String} (h : Derives d source role (.leaf (.rule name)) ts)
    (shown : role.aliasName.isSome ∨ isHidden name = false) :
    ∃ t, ts = [t] ∧ t.belongs ∧ Shows t name true role ∧
      ∀ body l, d.rule? name = some body → d.soleToken? body = some l → l.Spelled source t := by
  cases h with
  | @tokenRule _ _ body l t rule sole part _ shows spelled =>
    refine ⟨t, rfl, part, shows, fun body' l' rule' sole' => ?_⟩
    obtain rfl := Option.some.inj (rule.symm.trans rule')
    obtain rfl := Option.some.inj (sole.symm.trans sole')
    exact spelled
  | @rule _ _ body t rule sole part _ shows _ _ =>
    refine ⟨t, rfl, part, shows, fun body' l' rule' sole' => ?_⟩
    obtain rfl := Option.some.inj (rule.symm.trans rule')
    simp [sole] at sole'
  | hiddenRule rule unnamed hidden derived => simp [unnamed, hidden] at shown

theorem Derives.part {r : Phrase} {rs : List Phrase} (h : Derives d source role (.seq rs) ts)
    (mem : r ∈ rs) : ∃ us, us ⊆ ts ∧ Derives d source role r us := by
  induction rs generalizing ts with
  | nil => cases mem
  | cons first rs ih =>
    cases h with
    | next head tail =>
      obtain rfl | later := List.mem_cons.1 mem
      · exact ⟨_, List.subset_append_left _ _, head⟩
      · obtain ⟨us, sub, derived⟩ := ih tail later
        exact ⟨us, fun u hu => List.mem_append_right _ (sub hu), derived⟩

end Grammar
end TagIndex
