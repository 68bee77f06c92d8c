import Mathlib.Data.List.Basic

/-! Lists cut at a separator. Pieces with separators between them are found again exactly when none
of them holds the separator itself; else there are more pieces than before. -/

namespace TagIndex

variable {α : Type}

theorem flatMap_ended (separator : α) (pieces : List (List α)) :
    pieces.flatMap (· ++ [separator]) = [separator].intercalate (pieces ++ [[]]) := by
  induction pieces with
  | nil => rfl
  | cons p pieces ih =>
    obtain ⟨next, rest, split⟩ := List.exists_cons_of_ne_nil
      (show pieces ++ [[]] ≠ [] from List.append_ne_nil_of_right_ne_nil _ (by simp))
    rw [List.flatMap_cons, ih, List.cons_append, split, List.intercalate_cons_cons]

theorem append_separator_inj {separator : α} {a b r s : List α} (ha : separator ∉ a)
    (hb : separator ∉ b) (h : a ++ separator :: r = b ++ separator :: s) : a = b ∧ r = s := by
  obtain ⟨c, rfl, rest⟩ | ⟨c, rfl, rest⟩ := List.append_eq_append_iff.1 h
  all_goals
    cases c with
    | nil => simpa [eq_comm] using rest
    | cons x c => simp_all

theorem append_separator_inj_of_last {separator : α} {a b r s : List α} (hr : separator ∉ r)
    (hs : separator ∉ s) (h : a ++ separator :: r = b ++ separator :: s) : a = b ∧ r = s := by
  have reversed : r.reverse ++ separator :: a.reverse = s.reverse ++ separator :: b.reverse := by
    simpa using congrArg List.reverse h
  obtain ⟨last, front⟩ := append_separator_inj (by simpa using hr) (by simpa using hs) reversed
  exact ⟨List.reverse_injective front, List.reverse_injective last⟩

variable [BEq α]

theorem length_splitOn (separator : α) (xs : List α) :
    (xs.splitOn separator).length = xs.count separator + 1 := by
  induction xs with
  | nil => simp
  | cons x xs ih =>
    rw [List.splitOn_cons_eq_if_modifyHead, List.count_cons]
    split <;> simp_all

variable [LawfulBEq α] {separator : α} {pieces : List (List α)}

theorem count_intercalate (separator : α) (first : List α) (rest : List (List α)) :
    ([separator].intercalate (first :: rest)).count separator =
      (first :: rest).flatten.count separator + rest.length := by
  induction rest generalizing first with
  | nil => simp
  | cons second rest ih =>
    rw [List.intercalate_cons_cons, List.count_append, List.count_append,
      List.count_singleton_self, ih second, List.flatten_cons (l := first), List.count_append,
      List.length_cons]
    omega

theorem length_splitOn_intercalate (nonempty : pieces ≠ []) :
    (([separator].intercalate pieces).splitOn separator).length = pieces.length ↔
      ∀ p ∈ pieces, separator ∉ p := by
  obtain ⟨first, rest, rfl⟩ := List.exists_cons_of_ne_nil nonempty
  have nothing : (first :: rest).flatten.count separator = 0 ↔
      ∀ p ∈ first :: rest, separator ∉ p := by
    rw [List.count_eq_zero, List.mem_flatten, not_exists]
    simp only [not_and]
  rw [length_splitOn, count_intercalate, ← nothing, List.length_cons]
  omega

end TagIndex
