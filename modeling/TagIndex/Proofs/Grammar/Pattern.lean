import TagIndex.Grammar.Pattern
import Mathlib.Data.List.Basic

/-! The texts of a pattern. -/

namespace TagIndex.Grammar
open Text

inductive Pattern.Matches : Pattern → List Char → Prop
  | empty : Matches .empty []
  | one {set : CharSet} {c : Char} (h : set.contains c.toNat) : Matches (.one set) [c]
  | andThen {p q : Pattern} {a b : List Char} (first : Matches p a) (second : Matches q b) :
      Matches (.andThen p q) (a ++ b)
  | left {p q : Pattern} {a : List Char} (h : Matches p a) : Matches (.either p q) a
  | right {p q : Pattern} {a : List Char} (h : Matches q a) : Matches (.either p q) a
  | none {p : Pattern} : Matches (.many p) []
  | more {p : Pattern} {a b : List Char} (first : Matches p a) (rest : Matches (.many p) b) :
      Matches (.many p) (a ++ b)

namespace Pattern

theorem Matches.mem_sets {p : Pattern} {text : List Char} (h : p.Matches text) :
    ∀ c ∈ text, ∃ set ∈ p.sets, set.contains c.toNat = true := by
  induction h with
  | empty => simp
  | one h => simpa [sets] using h
  | andThen _ _ ihs iht =>
    intro c mem
    obtain mem | mem := List.mem_append.1 mem
    · obtain ⟨set, listed, holds⟩ := ihs c mem
      exact ⟨set, List.mem_append_left _ listed, holds⟩
    · obtain ⟨set, listed, holds⟩ := iht c mem
      exact ⟨set, List.mem_append_right _ listed, holds⟩
  | left _ ih =>
    intro c mem
    obtain ⟨set, listed, holds⟩ := ih c mem
    exact ⟨set, List.mem_append_left _ listed, holds⟩
  | right _ ih =>
    intro c mem
    obtain ⟨set, listed, holds⟩ := ih c mem
    exact ⟨set, List.mem_append_right _ listed, holds⟩
  | none => simp
  | more _ _ ihs iht =>
    intro c mem
    exact (List.mem_append.1 mem).elim (ihs c) (iht c)

theorem Matches.nullable {p : Pattern} {text : List Char} (h : p.Matches text)
    (empty : text = []) : p.nullable = true := by
  induction h with
  | empty => rfl
  | one h => cases empty
  | andThen _ _ ihs iht =>
    obtain ⟨first, second⟩ := List.append_eq_nil_iff.1 empty
    simp [Pattern.nullable, ihs first, iht second]
  | left _ ih => simp [Pattern.nullable, ih empty]
  | right _ ih => simp [Pattern.nullable, ih empty]
  | none => rfl
  | more => rfl

theorem matches_text (s : String) : (Pattern.text s).Matches s.toList := by
  rw [Pattern.text]
  induction s.toList with
  | nil => exact .empty
  | cons c cs ih =>
    have first : (Pattern.one (.single c)).Matches [c] :=
      .one (by simp [CharSet.contains, CharSet.single])
    cases cs with
    | nil => exact first
    | cons d ds => exact .andThen first ih

def firsts : Pattern → List CharSet
  | .empty => []
  | .one set => [set]
  | .andThen p q => if p.nullable then p.firsts ++ q.firsts else p.firsts
  | .either p q => p.firsts ++ q.firsts
  | .many p => p.firsts

theorem Matches.first {p : Pattern} {text : List Char} (h : p.Matches text) {c : Char}
    {rest : List Char} (split : text = c :: rest) :
    ∃ set ∈ p.firsts, set.contains c.toNat = true := by
  induction h generalizing rest with
  | empty => cases split
  | @one set d holds =>
    obtain ⟨rfl, -⟩ := List.cons.inj split
    exact ⟨set, List.mem_singleton_self set, holds⟩
  | @andThen p q a b first _ ihs iht =>
    cases a with
    | nil =>
      have skipped : p.nullable = true := first.nullable rfl
      obtain ⟨set, listed, holds⟩ := iht split
      refine ⟨set, ?_, holds⟩
      simp [firsts, skipped, listed]
    | cons d a =>
      obtain ⟨rfl, -⟩ := List.cons.inj split
      obtain ⟨set, listed, holds⟩ := ihs rfl
      refine ⟨set, ?_, holds⟩
      cases skipped : p.nullable <;> simp [firsts, skipped, listed]
  | left _ ih =>
    obtain ⟨set, listed, holds⟩ := ih split
    exact ⟨set, List.mem_append_left _ listed, holds⟩
  | right _ ih =>
    obtain ⟨set, listed, holds⟩ := ih split
    exact ⟨set, List.mem_append_right _ listed, holds⟩
  | none => cases split
  | @more p a b _ _ ihs iht =>
    cases a with
    | nil => exact iht split
    | cons d a =>
      obtain ⟨rfl, -⟩ := List.cons.inj split
      exact ihs rfl

/-- The text of a pattern that leaves no choice. -/
def literal? : Pattern → Option (List Char)
  | .empty => some []
  | .one ⟨[(lo, hi)]⟩ => if lo = hi then some [Char.ofNat lo] else none
  | .one _ => none
  | .andThen p q => do return (← p.literal?) ++ (← q.literal?)
  | .either _ _ => none
  | .many _ => none

theorem Matches.literal {p : Pattern} {text : List Char} (h : p.Matches text) {known : List Char}
    (literal : p.literal? = some known) : text = known := by
  induction h generalizing known with
  | empty => simpa [literal?] using literal
  | @one set c holds =>
    cases set with
    | mk ranges =>
      match ranges, literal, holds with
      | [(lo, hi)], literal, holds =>
        simp only [literal?, Option.ite_none_right_eq_some, Option.some.injEq] at literal
        obtain ⟨rfl, rfl⟩ := literal
        have same : c.toNat = lo := by
          simp only [CharSet.contains, List.any_cons, List.any_nil, Bool.or_false,
            Bool.and_eq_true, decide_eq_true_eq] at holds
          omega
        rw [← same, Char.ofNat_toNat]
  | andThen _ _ ihs iht =>
    simp only [literal?, Option.bind_eq_bind, Option.bind_eq_some_iff, Option.pure_def,
      Option.some.injEq] at literal
    obtain ⟨a, left, b, right, rfl⟩ := literal
    rw [ihs left, iht right]
  | left => cases literal
  | right => cases literal
  | none => cases literal
  | more => cases literal

theorem literal?_text (s : String) : (Pattern.text s).literal? = some s.toList := by
  have single (c : Char) : (Pattern.one (.single c)).literal? = some [c] := by
    simp [literal?, CharSet.single]
  rw [Pattern.text]
  induction s.toList with
  | nil => rfl
  | cons c cs ih =>
    cases cs with
    | nil => exact single c
    | cons d ds =>
      change (andThen (one (.single c)) (seq ((d :: ds).map _))).literal? = _
      rw [literal?, single, ih]
      rfl

theorem matches_text_iff {s : String} {text : List Char} :
    (Pattern.text s).Matches text ↔ text = s.toList :=
  ⟨fun h => h.literal (literal?_text s), fun same => same ▸ matches_text s⟩

end Pattern
end TagIndex.Grammar
