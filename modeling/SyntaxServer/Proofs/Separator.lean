import Mathlib.Data.List.TakeWhile

/-! # Cutting at a separator

A list that has a separator is cut at the first or at the last place where the separator stands.
-/
namespace SyntaxServer

variable {α : Type*} [DecidableEq α] {a : α} {s t : List α}

theorem decide_ne_of_not_mem (h : a ∉ s) : ∀ b ∈ s, decide (b ≠ a) = true := by
  intro b hb
  rw [decide_eq_true_iff]
  exact ne_of_mem_of_not_mem hb h

theorem dropWhile_of_not_mem (h : a ∉ s) : s.dropWhile (· ≠ a) = [] :=
  List.dropWhile_eq_nil_iff.2 (decide_ne_of_not_mem h)

theorem dropWhile_append_cons (h : a ∉ s) (t : List α) : (s ++ a :: t).dropWhile (· ≠ a) = a :: t := by
  rw [List.dropWhile_append_of_pos (decide_ne_of_not_mem h)]
  simp

theorem takeWhile_append_cons (h : a ∉ s) (t : List α) : (s ++ a :: t).takeWhile (· ≠ a) = s := by
  rw [List.takeWhile_append_of_pos (decide_ne_of_not_mem h)]
  simp

theorem not_mem_or_exists_last (a : α) (s : List α) : a ∉ s ∨ ∃ before after, s = before ++ a :: after ∧ a ∉ after := by
  by_cases h : a ∈ s
  · obtain ⟨after,before,hrev,ha⟩ := List.eq_append_cons_of_mem (List.mem_reverse.2 h)
    refine .inr ⟨before.reverse,after.reverse,?_,by simpa using ha⟩
    rw [← List.reverse_reverse s, hrev]
    simp
  · exact .inl h

theorem reverse_dropWhile_append_cons (s : List α) (h : a ∉ t) :
    (s ++ a :: t).reverse.dropWhile (· ≠ a) = a :: s.reverse := by
  rw [List.reverse_append, List.reverse_cons, List.append_assoc]
  exact dropWhile_append_cons (by simpa using h) s.reverse

theorem reverse_takeWhile_append_cons (s : List α) (h : a ∉ t) :
    (s ++ a :: t).reverse.takeWhile (· ≠ a) = t.reverse := by
  rw [List.reverse_append, List.reverse_cons, List.append_assoc]
  exact takeWhile_append_cons (by simpa using h) s.reverse

end SyntaxServer
