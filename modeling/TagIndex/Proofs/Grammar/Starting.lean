import TagIndex.Proofs.Grammar.Reading

/-! Which phrases can begin at some point of a text. It is enough to know the tokens that can be
read there, and for each rule, with which tokens and rules it begins. -/

namespace TagIndex.Grammar

variable {α : Type}

mutual

/-- The phrase may come to nothing, even if none of its leaves does. -/
def Rule.blankable : Rule α → Bool
  | .blank => true
  | .leaf _ => false
  | .choice rs => Rule.anyBlankable rs
  | .seq rs => Rule.allBlankable rs
  | .repeat1 r => r.blankable
  | .prec _ _ r => r.blankable
  | .weigh _ r => r.blankable
  | .called _ r => r.blankable
  | .field _ r => r.blankable

def Rule.anyBlankable : List (Rule α) → Bool
  | [] => false
  | r :: rs => r.blankable || Rule.anyBlankable rs

def Rule.allBlankable : List (Rule α) → Bool
  | [] => true
  | r :: rs => r.blankable && Rule.allBlankable rs

end

mutual

/-- The phrase may begin with one of certain leaves. -/
def Rule.starts (leaf : α → Bool) : Rule α → Bool
  | .blank => false
  | .leaf a => leaf a
  | .choice rs => Rule.anyStarts leaf rs
  | .seq rs => Rule.chainStarts leaf rs
  | .repeat1 r => r.starts leaf
  | .prec _ _ r => r.starts leaf
  | .weigh _ r => r.starts leaf
  | .called _ r => r.starts leaf
  | .field _ r => r.starts leaf

def Rule.anyStarts (leaf : α → Bool) : List (Rule α) → Bool
  | [] => false
  | r :: rs => r.starts leaf || Rule.anyStarts leaf rs

def Rule.chainStarts (leaf : α → Bool) : List (Rule α) → Bool
  | [] => false
  | r :: rs => r.starts leaf || r.blankable && Rule.chainStarts leaf rs

end

theorem Rule.anyBlankable_of_mem {r : Rule α} {rs : List (Rule α)} (mem : r ∈ rs)
    (h : r.blankable = true) : Rule.anyBlankable rs = true := by
  induction rs with
  | nil => cases mem
  | cons first rs ih =>
    obtain rfl | later := List.mem_cons.1 mem
    · simp [anyBlankable, h]
    · simp [anyBlankable, ih later]

theorem Rule.anyStarts_of_mem {leaf : α → Bool} {r : Rule α} {rs : List (Rule α)} (mem : r ∈ rs)
    (h : r.starts leaf = true) : Rule.anyStarts leaf rs = true := by
  induction rs with
  | nil => cases mem
  | cons first rs ih =>
    obtain rfl | later := List.mem_cons.1 mem
    · simp [anyStarts, h]
    · simp [anyStarts, ih later]

def Leaf.isOpen (opens : Lexeme → Bool) (dead : String → Bool) : Leaf → Bool
  | .token l => opens l
  | .rule name => !dead name

/-- No dead rule begins with an open token or with a rule that is not dead. Some are excepted. -/
def Description.closed (d : Description) (opens : Lexeme → Bool) (dead : String → Bool)
    (excepted : List String) : Bool :=
  d.rules.all fun (name, body) => !dead name || excepted.contains name ||
    !body.starts (Leaf.isOpen opens dead) && !body.blankable

variable {d : Description} {source name : String} {s s' : List Char} {role : Role} {r : Phrase}
  {ts : List Tree} {opens : Lexeme → Bool} {dead : String → Bool} {excepted : List String}

theorem Description.closed_rule (closed : d.closed opens dead excepted = true)
    (isDead : dead name = true) {body : Phrase} (rule : d.rule? name = some body) :
    name ∈ excepted ∨ body.starts (Leaf.isOpen opens dead) = false ∧ body.blankable = false := by
  have entry : (name, body) ∈ d.rules := by
    obtain ⟨before, after, split, -⟩ := List.lookup_eq_some_iff.1 rule
    simp [split]
  simpa [isDead] using List.all_eq_true.1 closed _ entry

theorem Description.eq_of_soleToken? {body : Phrase} {l : Lexeme}
    (sole : d.soleToken? body = some l) : body = .leaf (.token l) := by
  unfold soleToken? at sole
  split at sole
  · split at sole
    · exact Option.some.inj sole ▸ rfl
    · cases sole
  · cases sole

/-- A phrase begins with what is open, or takes nothing. -/
theorem Parses.starts (reads : ∀ l text s', d.Reads l s text s' → opens l = true)
    (alive : ∀ role name ts s' body, Parses d source role (Phrase.ref name) s ts s' →
      d.rule? name = some body →
        body.starts (Leaf.isOpen opens dead) = true ∨ body.blankable = true → dead name = false)
    (h : Parses d source role r s ts s') :
    r.starts (Leaf.isOpen opens dead) = true ∨ r.blankable = true ∧ s' = s := by
  have open_of_alive {name : String} (isAlive : dead name = false) :
      (Phrase.ref name).starts (Leaf.isOpen opens dead) = true := by
    simp [Phrase.ref, Rule.starts, Leaf.isOpen, isAlive]
  induction h with
  | blank => exact .inr ⟨rfl, rfl⟩
  | token _ _ _ read => exact .inl (reads _ _ _ read)
  | hiddenToken _ _ read => exact .inl (reads _ _ _ read)
  | @tokenRule _ _ body _ _ _ _ _ rule sole part shown shows read stands =>
    have starts : body.starts (Leaf.isOpen opens dead) = true := by
      rw [Description.eq_of_soleToken? sole]
      exact reads _ _ _ read
    exact .inl (open_of_alive (alive _ _ _ _ _
      (.tokenRule rule sole part shown shows read stands) rule (.inl starts)))
  | rule rule sole part shown shows between parsed ih =>
    exact .inl (open_of_alive (alive _ _ _ _ _
      (.rule rule sole part shown shows between parsed) rule
      ((ih reads alive).imp_right And.left)))
  | hiddenRule rule unnamed hidden parsed ih =>
    exact .inl (open_of_alive (alive _ _ _ _ _ (.hiddenRule rule unnamed hidden parsed) rule
      ((ih reads alive).imp_right And.left)))
  | choice chosen _ ih =>
    refine (ih reads alive).imp (Rule.anyStarts_of_mem chosen) fun ⟨empty, same⟩ =>
      ⟨Rule.anyBlankable_of_mem chosen empty, same⟩
  | done => exact .inr ⟨rfl, rfl⟩
  | @next role r rs ts us s m s' first rest ih ihs =>
    obtain starts | ⟨empty, rfl⟩ := ih reads alive
    · exact .inl (by simp [Rule.starts, Rule.chainStarts, starts])
    · obtain starts | ⟨empties, rfl⟩ := ihs reads alive
      · refine .inl ?_
        rw [Rule.starts] at starts ⊢
        simp [Rule.chainStarts, starts, empty]
      · refine .inr ⟨?_, rfl⟩
        rw [Rule.blankable] at empties ⊢
        simp [Rule.allBlankable, empty, empties]
  | once _ ih => exact ih reads alive
  | again first rest ih ihs =>
    obtain starts | ⟨empty, rfl⟩ := ih reads alive
    · exact .inl starts
    · exact ihs reads alive
  | prec _ ih => exact ih reads alive
  | weigh _ ih => exact ih reads alive
  | called _ ih => exact ih reads alive
  | field _ ih => exact ih reads alive

structure Front (d : Description) (source : String) (s : List Char) (opens : Lexeme → Bool)
    (dead : String → Bool) : Prop where
  reads : ∀ l text s', d.Reads l s text s' → opens l = true
  misses : ∀ name, dead name = true →
    ∀ role ts s', ¬ Parses d source role (Phrase.ref name) s ts s'

theorem Front.closed (reads : ∀ l text s', d.Reads l s text s' → opens l = true)
    (bar : ∀ name ∈ excepted, ∀ role ts s', ¬ Parses d source role (Phrase.ref name) s ts s')
    (closed : d.closed opens dead excepted = true) : Front d source s opens dead := by
  refine ⟨reads, fun name isDead role ts s' h => ?_⟩
  have alive : ∀ role name ts s' body, Parses d source role (Phrase.ref name) s ts s' →
      d.rule? name = some body →
        body.starts (Leaf.isOpen opens dead) = true ∨ body.blankable = true →
          dead name = false := by
    intro role name ts s' body parsed rule begins
    by_contra isDead
    obtain barred | ⟨noStart, noBlank⟩ := d.closed_rule closed (by simpa using isDead) rule
    · exact bar name barred _ _ _ parsed
    · simp [noStart, noBlank] at begins
  obtain starts | ⟨empty, -⟩ := h.starts reads alive
  · simp [Phrase.ref, Rule.starts, Leaf.isOpen, isDead] at starts
  · cases empty

theorem Front.starts (front : Front d source s opens dead) (h : Parses d source role r s ts s') :
    r.starts (Leaf.isOpen opens dead) = true ∨ r.blankable = true ∧ s' = s := by
  refine h.starts front.reads fun role name ts s' body parsed _ _ => ?_
  by_contra isDead
  exact front.misses name (by simpa using isDead) role ts s' parsed

theorem Front.stay (front : Front d source s opens dead) (h : Parses d source role r s ts s')
    (shut : r.starts (Leaf.isOpen opens dead) = false) : s' = s := by
  obtain starts | ⟨-, same⟩ := front.starts h
  · simp [shut] at starts
  · exact same

theorem Front.miss (front : Front d source s opens dead) (h : Parses d source role r s ts s')
    (shut : (r.starts (Leaf.isOpen opens dead) || r.blankable) = false) : False := by
  obtain starts | ⟨empty, -⟩ := front.starts h
  · simp [starts] at shut
  · simp [empty] at shut

theorem Front.only (front : Front d source s opens dead) (i : Nat) {rs : List Phrase}
    (h : Parses d source role (Phrase.oneOf rs) s ts s') (chosen : rs[i]? = some r)
    (shut : (rs.eraseIdx i).all
      (fun q => !(q.starts (Leaf.isOpen opens dead) || q.blankable)) = true) :
    Parses d source role r s ts s' := by
  obtain ⟨q, listed, parsed⟩ := parses_oneOf.1 h
  obtain ⟨j, place⟩ := List.mem_iff_getElem?.1 listed
  by_cases same : j = i
  · rw [same, chosen] at place
    exact Option.some.inj place ▸ parsed
  · have other : q ∈ rs.eraseIdx i := List.mem_eraseIdx_iff_getElem?.2 ⟨j, same, place⟩
    have closed := List.all_eq_true.1 shut q other
    exact (front.miss parsed (by simpa using closed)).elim

end TagIndex.Grammar
