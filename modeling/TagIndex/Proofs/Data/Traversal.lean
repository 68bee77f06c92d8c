import Mathlib.Data.List.Basic
import Mathlib.Data.List.Forall2
import Mathlib.Data.List.Perm.Basic

/-! Going through a list with a function that may fail: it stops at the first element that fails,
and succeeds when all elements do. -/

namespace TagIndex

variable {α β γ ε : Type}

structure FirstFailure (f : α → Except ε β) (before : List α) (x : α) (e : ε) : Prop where
  succeeds : ∀ y ∈ before, ∃ z, f y = .ok z
  fails : f x = .error e

theorem bind_eq_ok_iff {a : Except ε α} {f : α → Except ε β} {y : β} :
    a >>= f = .ok y ↔ ∃ x, a = .ok x ∧ f x = .ok y := by
  cases a <;> simp [bind, Except.bind]

theorem bind_eq_error_iff {a : Except ε α} {f : α → Except ε β} {e : ε} :
    a >>= f = .error e ↔ a = .error e ∨ ∃ x, a = .ok x ∧ f x = .error e := by
  cases a <;> simp [bind, Except.bind]

theorem map_eq_ok_iff {a : Except ε α} {f : α → β} {y : β} :
    f <$> a = .ok y ↔ ∃ x, a = .ok x ∧ f x = y := by
  cases a <;> simp [Functor.map, Except.map]

theorem map_eq_error_iff {a : Except ε α} {f : α → β} {e : ε} :
    f <$> a = .error e ↔ a = .error e := by
  cases a <;> simp [Functor.map, Except.map]

theorem mapError_eq_error_iff {ε' : Type} {a : Except ε α} {f : ε → ε'} {e : ε'} :
    a.mapError f = .error e ↔ ∃ cause, a = .error cause ∧ f cause = e := by
  cases a <;> simp [Except.mapError]

theorem mapM_eq_ok_iff {f : α → Except ε β} {xs : List α} {ys : List β} :
    xs.mapM f = .ok ys ↔ List.Forall₂ (fun x y => f x = .ok y) xs ys := by
  induction xs generalizing ys with
  | nil => simp [pure, Except.pure, eq_comm]
  | cons x xs ih =>
    simp only [List.mapM_cons, bind_eq_ok_iff, ih, List.forall₂_cons_left_iff, pure, Except.pure,
      Except.ok.injEq]
    constructor
    · rintro ⟨y, hy, ys, hs, rfl⟩
      exact ⟨y, ys, hy, hs, rfl⟩
    · rintro ⟨y, ys, hy, hs, rfl⟩
      exact ⟨y, hy, ys, hs, rfl⟩

theorem mapM_eq_error_iff {f : α → Except ε β} {xs : List α} {e : ε} :
    xs.mapM f = .error e ↔
      ∃ before x after, xs = before ++ x :: after ∧ FirstFailure f before x e := by
  induction xs with
  | nil =>
    simp only [List.mapM_nil, pure, Except.pure, reduceCtorEq, false_iff]
    rintro ⟨before, x, after, h, -⟩
    simp at h
  | cons y ys ih =>
    simp only [List.mapM_cons, bind_eq_error_iff, ih, pure, Except.pure, reduceCtorEq, and_false,
      exists_false, or_false]
    constructor
    · rintro (hy | ⟨z, hz, before, x, after, rfl, first⟩)
      · exact ⟨[], y, ys, rfl, by simp, hy⟩
      · refine ⟨y :: before, x, after, rfl, fun w hw => ?_, first.fails⟩
        obtain rfl | hw := List.mem_cons.1 hw
        · exact ⟨z, hz⟩
        · exact first.succeeds w hw
    · rintro ⟨before, x, after, h, first⟩
      cases before with
      | nil =>
        obtain ⟨rfl, rfl⟩ := List.cons.inj h
        exact .inl first.fails
      | cons w before =>
        obtain ⟨rfl, rfl⟩ := List.cons.inj h
        obtain ⟨z, hz⟩ := first.succeeds y List.mem_cons_self
        exact .inr ⟨z, hz, before, x, after, rfl,
          fun w hw => first.succeeds w (List.mem_cons_of_mem y hw), first.fails⟩

theorem mapM_eq_error {f : α → Except ε β} {before after : List α} {x : α} {e : ε}
    (h : FirstFailure f before x e) : (before ++ x :: after).mapM f = .error e :=
  mapM_eq_error_iff.2 ⟨before, x, after, rfl, h⟩

theorem exists_mapM_eq_ok_iff {f : α → Except ε β} {xs : List α} :
    (∃ ys, xs.mapM f = .ok ys) ↔ ∀ x ∈ xs, ∃ y, f x = .ok y := by
  induction xs with
  | nil => simp [pure, Except.pure]
  | cons x xs ih =>
    simp only [List.mapM_cons, bind_eq_ok_iff, List.forall_mem_cons, ← ih, pure, Except.pure,
      Except.ok.injEq]
    constructor
    · rintro ⟨_, y, hy, ys, hs, -⟩
      exact ⟨⟨y, hy⟩, ys, hs⟩
    · rintro ⟨⟨y, hy⟩, ys, hs⟩
      exact ⟨_, y, hy, ys, hs, rfl⟩

theorem mapM_eq_pure_map {m : Type → Type} [Monad m] [LawfulMonad m] {f : α → m β} {g : α → β}
    {xs : List α} (h : ∀ x ∈ xs, f x = pure (g x)) : xs.mapM f = pure (xs.map g) := by
  induction xs with
  | nil => rfl
  | cons x xs ih =>
    obtain ⟨first, rest⟩ := List.forall_mem_cons.1 h
    simp [first, ih rest]

theorem mapM_perm {f : α → Except ε β} {xs ys : List α} {zs : List β} (same : xs.Perm ys)
    (h : xs.mapM f = .ok zs) : ∃ ws, ys.mapM f = .ok ws ∧ zs.Perm ws := by
  obtain ⟨ws, each, perm⟩ := List.perm_comp_forall₂ same.symm (mapM_eq_ok_iff.1 h)
  exact ⟨ws, mapM_eq_ok_iff.2 each, perm.symm⟩

theorem exists_firstFailure {f : α → Except ε β} {xs : List α} {x : α} {e : ε} (hx : x ∈ xs)
    (fails : f x = .error e) :
    ∃ before y after e, xs = before ++ y :: after ∧ FirstFailure f before y e := by
  cases all : xs.mapM f with
  | error e =>
    obtain ⟨before, y, after, split, first⟩ := mapM_eq_error_iff.1 all
    exact ⟨before, y, after, e, split, first⟩
  | ok ys =>
    obtain ⟨y, succeeds⟩ := exists_mapM_eq_ok_iff.1 ⟨ys, all⟩ x hx
    rw [fails] at succeeds
    cases succeeds

theorem mapM_map_eq {f : α → Except ε β} {g : α → α} {xs : List α}
    (same : ∀ x ∈ xs, f (g x) = f x) : (xs.map g).mapM f = xs.mapM f := by
  induction xs with
  | nil => rfl
  | cons x xs ih =>
    obtain ⟨first, rest⟩ := List.forall_mem_cons.1 same
    rw [List.map_cons, List.mapM_cons, List.mapM_cons, first, ih rest]

theorem flatten_mapM_cons (f : α → Except ε (List β)) (x : α) (xs : List α) :
    List.flatten <$> (x :: xs).mapM f =
      f x >>= fun ys => (ys ++ ·) <$> (List.flatten <$> xs.mapM f) := by
  rw [List.mapM_cons]
  cases f x <;> cases xs.mapM f <;> rfl

theorem flatten_mapM_map_filter {f : α → Except ε (List β)} {p : α → Bool} {g : α → α}
    {xs : List α} (same : ∀ x ∈ xs, f (g x) = f x)
    (nothing : ∀ x ∈ xs, p x = false → f x = .ok []) :
    List.flatten <$> ((xs.filter p).map g).mapM f = List.flatten <$> xs.mapM f := by
  induction xs with
  | nil => rfl
  | cons x xs ih =>
    obtain ⟨sameHere, sameLater⟩ := List.forall_mem_cons.1 same
    obtain ⟨first, rest⟩ := List.forall_mem_cons.1 nothing
    rw [flatten_mapM_cons]
    cases kept : p x with
    | true =>
      rw [List.filter_cons_of_pos kept, List.map_cons, flatten_mapM_cons, sameHere,
        ih sameLater rest]
    | false =>
      rw [List.filter_cons_of_neg (by simp [kept]), ih sameLater rest, first kept]
      cases List.flatten <$> xs.mapM f <;> rfl

theorem flatMap_filter (p : α → Bool) (f : α → List β) (xs : List α) :
    (xs.filter p).flatMap f = xs.flatMap fun x => if p x then f x else [] := by
  induction xs with
  | nil => rfl
  | cons x xs ih =>
    rw [List.filter_cons, List.flatMap_cons, ← ih]
    cases p x <;> rfl

theorem map_eq_of_forall₂ {f : α → γ} {g : β → γ} {xs : List α} {ys : List β}
    (h : List.Forall₂ (fun x y => f x = g y) xs ys) : xs.map f = ys.map g := by
  induction h with
  | nil => rfl
  | cons same _ ih => rw [List.map_cons, List.map_cons, same, ih]

theorem exists_mem_of_forall₂ {R : α → β → Prop} {xs : List α} {ys : List β} {y : β}
    (h : List.Forall₂ R xs ys) (mem : y ∈ ys) : ∃ x ∈ xs, R x y := by
  induction h with
  | nil => cases mem
  | cons first _ ih =>
    obtain rfl | later := List.mem_cons.1 mem
    · exact ⟨_, List.mem_cons_self, first⟩
    · obtain ⟨x, listed, related⟩ := ih later
      exact ⟨x, List.mem_cons_of_mem _ listed, related⟩

theorem forall₂_join {R : α → γ → Prop} {S : β → γ → Prop} {xs : List α} {ys : List β}
    {zs : List γ} (h : List.Forall₂ R xs zs) (h' : List.Forall₂ S ys zs) :
    List.Forall₂ (fun x y => ∃ z, R x z ∧ S y z) xs ys := by
  induction h generalizing ys with
  | nil =>
    cases h'
    exact .nil
  | cons first _ ih =>
    cases h' with
    | cons first' rest' => exact .cons ⟨_, first, first'⟩ (ih rest')

end TagIndex
