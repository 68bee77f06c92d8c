import TagIndex.Proofs.Printing.Lines

/-! Trees node by node, with a place for each, by which the grammar reads a text. -/

namespace TagIndex
open Text

def Place.after (before : List Char) : Place :=
  ⟨(Utf8.encode before).length, before.count '\n',
    (Utf8.encode (before.reverse.takeWhile (· ≠ '\n'))).length⟩

namespace Tree

variable {source kind : String} {isNamed : Bool} {label : Option String}
  {before text rest : List Char} {cs : List Tree}

/-- A node for a part of the text, by what stands before it. -/
def placed (kind : String) (isNamed : Bool) (label : Option String) (before text : List Char)
    (children : List Tree) : Tree :=
  .node ⟨kind, isNamed, label, .after before,
    (Utf8.encode before).length + (Utf8.encode text).length, false, false, false, false⟩ children

theorem stands_placed (split : source.toList = before ++ (text ++ rest)) :
    (placed kind isNamed label before text []).Stands source text rest :=
  ⟨rfl, before, split, ⟨⟨rest, by rw [split, List.append_assoc]⟩, rfl, rfl⟩, rfl⟩

theorem clean_placed (clean : ∀ c ∈ cs, c.Clean) :
    (placed kind isNamed label before text cs).Clean := by
  intro u mem
  rw [placed, preorder, preorderAmong_eq_flatMap, List.mem_cons, List.mem_flatMap] at mem
  obtain rfl | ⟨c, child, below⟩ := mem
  · rfl
  · exact clean c child u below

theorem parts_placed (belong : ∀ c ∈ cs, c.belongs = true) :
    (placed kind isNamed label before text cs).parts = cs :=
  List.filter_eq_self.2 belong

end Tree

namespace Go
open Grammar Grammar.Phrase TagIndex.Tree

variable {source : String} {role : Role} {r : Phrase} {rs : List Phrase} {ts us : List Tree}
  {g before name rest s m s' : List Char}

structure Lays (source : String) (role : Role) (r : Phrase) (s : List Char) (ts : List Tree)
    (s' : List Char) : Prop where
  parses : Parses language source role r s ts s'
  belong : ∀ t ∈ ts, t.belongs = true
  clean : ∀ t ∈ ts, t.Clean

namespace Lays

theorem blank : Lays source role .blank s [] s := ⟨.blank, by simp, by simp⟩

theorem done : Lays source role (.seq []) s [] s := ⟨.done, by simp, by simp⟩

theorem next (first : Lays source role r s ts m) (rest : Lays source role (.seq rs) m us s') :
    Lays source role (.seq (r :: rs)) s (ts ++ us) s' where
  parses := .next first.parses rest.parses
  belong := List.forall_mem_append.2 ⟨first.belong, rest.belong⟩
  clean := List.forall_mem_append.2 ⟨first.clean, rest.clean⟩

theorem last (h : Lays source role r s ts s') : Lays source role (.seq [r]) s ts s' := by
  simpa using h.next done

theorem among (chosen : r ∈ rs) (h : Lays source role r s ts s') :
    Lays source role (oneOf rs) s ts s' :=
  ⟨parses_oneOf.2 ⟨r, chosen, h.parses⟩, h.belong, h.clean⟩

theorem field {label : String} (h : Lays source (role.within ⟨none, some label⟩) r s ts s') :
    Lays source role (.field label r) s ts s' :=
  ⟨.field h.parses, h.belong, h.clean⟩

theorem prec {level : Int} {assoc : Option Assoc} (h : Lays source role r s ts s') :
    Lays source role (.prec level assoc r) s ts s' :=
  ⟨.prec h.parses, h.belong, h.clean⟩

theorem weigh {weight : Int} (h : Lays source role r s ts s') :
    Lays source role (.weigh weight r) s ts s' :=
  ⟨.weigh h.parses, h.belong, h.clean⟩

theorem called {name : String} (h : Lays source (role.within ⟨some name, none⟩) r s ts s') :
    Lays source role (.called name r) s ts s' :=
  ⟨.called h.parses, h.belong, h.clean⟩

theorem none : Lays source role (opt r) s [] s :=
  among (by simp) blank

theorem some (h : Lays source role r s ts s') : Lays source role (opt r) s ts s' :=
  among (by simp) h

theorem nomore : Lays source role (many r) s [] s :=
  ⟨parses_many.2 (.inl ⟨rfl, rfl⟩), by simp, by simp⟩

theorem more (first : Lays source role r s ts m) (others : Lays source role (many r) m us s') :
    Lays source role (many r) s (ts ++ us) s' where
  parses := parses_many.2 (.inr ⟨_, _, _, first.parses, others.parses, rfl⟩)
  belong := List.forall_mem_append.2 ⟨first.belong, others.belong⟩
  clean := List.forall_mem_append.2 ⟨first.clean, others.clean⟩

variable {rule : String} {body : Phrase}

theorem hidden (listed : language.rule? rule = .some body) (isHidden : isHidden rule = true)
    (unnamed : role.aliasName = .none) (h : Lays source role body s ts s') :
    Lays source role (ref rule) s ts s' :=
  ⟨.hiddenRule listed unnamed isHidden h.parses, h.belong, h.clean⟩

theorem phrase (before text : List Char) (listed : language.rule? rule = .some body)
    (whole : language.soleToken? body = .none) (shown : isHidden rule = false)
    (unnamed : role.aliasName = .none) (h : Lays source {} body s ts s') :
    Lays source role (ref rule) s [placed rule true role.field before text ts] s' := by
  have shows : Shows (placed rule true role.field before text ts) rule true role := by
    refine ⟨?_, ?_, rfl⟩ <;> simp [unnamed, placed, kind, Tree.named, label]
  refine ⟨.rule listed whole rfl (.inr shown) shows (interspersed_of_belongs h.belong) ?_, ?_, ?_⟩
  · rw [parts_placed h.belong]
    exact h.parses
  · rw [List.forall_mem_singleton]
    rfl
  · rw [List.forall_mem_singleton]
    exact clean_placed h.clean

theorem leaf {t : Tree} {text : List Char} (parses : Parses language source role r s [t] s')
    (same : t = placed t.kind t.named t.field before text []) : Lays source role r s [t] s' := by
  refine ⟨parses, ?_, ?_⟩
  all_goals
    rw [List.forall_mem_singleton, same]
  · rfl
  · exact clean_placed (by simp)

theorem token (sp : String) (gap : Gap g) (unnamed : role.aliasName = .none)
    (whole : identifier.Matches sp.toList → Ends rest)
    (split : source.toList = before ++ (sp.toList ++ rest)) :
    Lays source role (lit sp) (g ++ (sp.toList ++ rest))
      [placed sp false role.field before sp.toList []] rest := by
  have read : language.Reads (.ofText sp) (g ++ (sp.toList ++ rest)) sp.toList rest :=
    reads_of_literal (Pattern.literal?_text sp) (Pattern.matches_text sp) gap nofun whole
  have shows : Shows (placed sp false role.field before sp.toList []) sp false role := by
    refine ⟨?_, ?_, rfl⟩ <;> simp [unnamed, placed, kind, Tree.named, label]
  exact leaf (parses_lit.2 ⟨_, _, rfl, rfl, shows, read, stands_placed split⟩) rfl

theorem sign (sp : String) (other : ¬ identifier.Matches sp.toList) (gap : Gap g)
    (unnamed : role.aliasName = .none) (split : source.toList = before ++ (sp.toList ++ rest)) :
    Lays source role (lit sp) (g ++ (sp.toList ++ rest))
      [placed sp false role.field before sp.toList []] rest :=
  token sp gap unnamed (fun matched => absurd matched other) split

theorem word (kind : String) {rule : String} (mem : (rule, kind) ∈ nameRules)
    (unnamed : role.aliasName = .none) (named : IsDeclName name) (gap : Gap g) (ends : Ends rest)
    (split : source.toList = before ++ (name ++ rest)) :
    Lays source role (ref rule) (g ++ (name ++ rest))
      [placed kind true role.field before name []] rest := by
  have read : language.Reads (.ofPattern identifier) (g ++ (name ++ rest)) name rest :=
    reads_of_identifier named.identifier named.free gap ends
  have identifier {role : Role} (shown : kind = role.aliasName.getD "identifier") :
      Parses language source role (ref "identifier") (g ++ (name ++ rest))
        [placed kind true role.field before name []] rest :=
    (parses_sole identifier_token rfl (.inr rfl)).2
      ⟨_, _, rfl, rfl, ⟨shown, by simp [placed, Tree.named, label], rfl⟩, read, stands_placed split⟩
  have aliased (body : language.rule? rule = .some (.called kind (ref "identifier")))
      (hidden : isHidden rule = true) : Parses language source role (ref rule)
        (g ++ (name ++ rest)) [placed kind true role.field before name []] rest := by
    rw [parses_hidden body hidden unnamed, parses_called]
    have field : role.field = (role.within ⟨.some kind, .none⟩).field := by simp [Role.within]
    rw [field]
    exact identifier (by simp [Role.within])
  refine leaf ?_ rfl
  simp only [nameRules, List.mem_cons, Prod.mk.injEq, List.not_mem_nil, or_false] at mem
  obtain ⟨rfl, rfl⟩ | ⟨rfl, rfl⟩ | ⟨rfl, rfl⟩ | ⟨rfl, rfl⟩ := mem
  · exact identifier (by simp [unnamed])
  · exact aliased rfl rfl
  · exact aliased rfl rfl
  · exact aliased rfl rfl

theorem newline (unnamed : role.aliasName = .none) :
    Lays source role terminator ('\n' :: rest) [] rest := by
  have token : Lays source role (tok Go.newline) ('\n' :: rest) [] rest :=
    ⟨.hiddenToken unnamed rfl reads_of_newline, by simp, by simp⟩
  exact among (by simp) token

end Lays

end Go
end TagIndex
