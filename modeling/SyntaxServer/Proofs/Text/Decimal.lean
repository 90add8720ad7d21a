import Mathlib.Data.List.DropRight
import SyntaxServer.Text.Blank
import SyntaxServer.Text.Decimal

/-! # Reading decimal digits back

A number is read back from its digits, and no trimming takes a digit away.
-/
namespace SyntaxServer

namespace Decimal

theorem value_eq (t : Text) : value t = Nat.ofDigitChars 10 t 0 := by
  simp only [value, Nat.ofDigitChars_eq_foldl, digitValue, Nat.mul_comm]

@[simp] theorem value_render (n : Nat) : value (render n) = n := by
  rw [value_eq, render, Nat.ofDigitChars_ten_toDigits]

theorem render_ne_nil (n : Nat) : render n ≠ [] := Nat.toDigits_ne_nil

theorem isDigit_of_mem_render {n : Nat} {c : Char} (h : c ∈ render n) : isDigit c := by
  have hc := Nat.isDigit_of_mem_toDigits (by omega) (by omega) h
  simpa [isDigit, Char.isDigit, Char.le_def] using hc

theorem isDigit_iff (c : Char) : isDigit c ↔ 48 ≤ c.toNat ∧ c.toNat ≤ 57 := by
  simp [isDigit, Char.le_def, UInt32.le_iff_toNat_le]

theorem isDigit_eq (c : Char) : isDigit c = c.isDigit := by
  rw [Bool.eq_iff_iff, isDigit_iff]
  simp [Char.isDigit, UInt32.le_iff_toNat_le]

theorem not_isBlank_of_isDigit {c : Char} (h : isDigit c) : ¬ Text.isBlank c := by
  rw [isDigit_iff] at h
  simp only [Text.isBlank, Bool.or_eq_true, Bool.and_eq_true, decide_eq_true_eq, beq_iff_eq]
  omega

end Decimal

namespace Text

variable {p : Char → Bool}

theorem trimEnd_append_of_all {t e : Text} (he : ∀ c ∈ e, p c) : trimEnd p (t ++ e) = trimEnd p t := by
  rw [trimEnd, trimEnd, List.reverse_append, List.dropWhile_append_of_pos]
  intro c hc
  exact he c (List.mem_reverse.1 hc)

theorem trimEnd_append_of_not {t e : Text} (hne : e ≠ []) (he : ∀ c ∈ e, ¬ p c) :
    trimEnd p (t ++ e) = t ++ e := by
  have hne' : e.reverse ≠ [] := by simpa using hne
  obtain ⟨c,r,hr⟩ := List.exists_cons_of_ne_nil hne'
  have hc : ¬ p c := he c (by rw [← List.mem_reverse, hr]; exact List.mem_cons_self)
  rw [trimEnd, List.reverse_append, hr, List.cons_append, List.dropWhile_cons_of_neg hc,
    ← List.cons_append, ← hr, ← List.reverse_append, List.reverse_reverse]

theorem trim_cons_of_isBlank {c : Char} {t : Text} (hc : isBlank c) (hne : t ≠ [])
    (ht : ∀ d ∈ t, ¬ isBlank d) : trim (c :: t) = t := by
  obtain ⟨d,r,rfl⟩ := List.exists_cons_of_ne_nil hne
  have hd : ¬ isBlank d := ht d List.mem_cons_self
  rw [trim, List.dropWhile_cons_of_pos hc, List.dropWhile_cons_of_neg hd]
  exact trimEnd_append_of_not (t := []) hne ht

theorem trimEnd_eq_rdropWhile (p : Char → Bool) (t : Text) : trimEnd p t = t.rdropWhile p := rfl

theorem trimEnd_append_cons {c : Char} (s t : Text) (hc : ¬ p c) :
    trimEnd p (s ++ c :: t) = s ++ c :: trimEnd p t := by
  rw [trimEnd, List.reverse_append, List.reverse_cons, List.append_assoc, List.dropWhile_append]
  split
  · next hnil =>
    have hend : trimEnd p t = [] := by
      rw [trimEnd, List.isEmpty_iff.1 hnil, List.reverse_nil]
    simp [hend, hc]
  · simp [trimEnd]

/-- Blanks at the end may be taken away before the others are. -/
theorem trim_trimEnd (hp : ∀ c, p c → isBlank c) (t : Text) : trim (trimEnd p t) = trim t := by
  have hblank : ∀ c ∈ t.rtakeWhile p, isBlank c := fun c hc => hp c (List.mem_rtakeWhile_imp hc)
  conv_rhs => rw [← List.rdropWhile_append_rtakeWhile (p := p) (l := t)]
  rw [trim, trim, List.dropWhile_append, trimEnd_eq_rdropWhile p t]
  split
  · next hnil =>
    have hend : (t.rtakeWhile p).dropWhile isBlank = [] := List.dropWhile_eq_nil_iff.2 hblank
    rw [List.isEmpty_iff.1 hnil, hend]
  · rw [trimEnd_append_of_all hblank]

end Text

end SyntaxServer
