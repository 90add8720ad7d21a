import SyntaxServer.Text.Basic

/-! # Beginnings of a text

An offset in bytes, or in UTF-16 units, stands for the beginning of the text that has this size. Two
beginnings of one text compare in the same way in both measures.
-/
namespace SyntaxServer.Text

theorem charUnits_pos (c : Char) : 0 < charUnits c := by
  unfold charUnits
  split <;> decide

theorem bytes_pos_iff {t : Text} : 0 < bytes t ↔ t ≠ [] := by
  cases t with
  | nil => simp
  | cons c t =>
    have hc := c.utf8Size_pos
    simp only [bytes_cons, ne_eq, reduceCtorEq, not_false_eq_true, iff_true]
    omega

theorem units_pos_iff {t : Text} : 0 < units t ↔ t ≠ [] := by
  cases t with
  | nil => simp
  | cons c t =>
    have hc := charUnits_pos c
    simp only [units_cons, ne_eq, reduceCtorEq, not_false_eq_true, iff_true]
    omega

theorem bytes_lt_iff_units_lt {a b t : Text} (ha : a <+: t) (hb : b <+: t) :
    bytes a < bytes b ↔ units a < units b := by
  rcases List.prefix_or_prefix_of_prefix ha hb with ⟨r, rfl⟩ | ⟨r, rfl⟩
  · have hr : 0 < bytes r ↔ 0 < units r := bytes_pos_iff.trans units_pos_iff.symm
    simp only [bytes_append, units_append]
    omega
  · simp only [bytes_append, units_append]
    omega

theorem isPrefix_of_bytes_le {a b t : Text} (ha : a <+: t) (hb : b <+: t) (hle : bytes a ≤ bytes b) : a <+: b := by
  rcases List.prefix_or_prefix_of_prefix ha hb with h | ⟨r, rfl⟩
  · exact h
  · rw [bytes_append] at hle
    have hr : ¬ 0 < bytes r := by omega
    obtain rfl : r = [] := Decidable.not_not.1 (mt bytes_pos_iff.2 hr)
    simp

theorem bytes_le_of_isPrefix {a t : Text} (h : a <+: t) : bytes a ≤ bytes t := by
  obtain ⟨r, rfl⟩ := h
  rw [bytes_append]
  exact Nat.le_add_right _ _

theorem charUnits_le_utf8Size (c : Char) : charUnits c ≤ c.utf8Size := by
  have hpos := c.utf8Size_pos
  unfold charUnits
  split
  · exact hpos
  · next hlarge =>
    -- a character with two units lies beyond all those with fewer than four bytes
    have hbeyond : 65535 < c.val.toNat := UInt32.le_iff_toNat_le.1 (UInt32.not_lt.1 hlarge)
    simp only [Char.utf8Size, UInt32.le_iff_toNat_le, UInt32.toNat_ofNatLT]
    rw [if_neg (by omega), if_neg (by omega), if_neg (by omega)]
    decide

theorem units_le_bytes (t : Text) : units t ≤ bytes t := by
  induction t with
  | nil => exact Nat.le_refl 0
  | cons c t ih => exact Nat.add_le_add (charUnits_le_utf8Size c) ih

theorem takeBytes_of_isPrefix {a t : Text} (h : a <+: t) : takeBytes (bytes a) t = a := by
  obtain ⟨r, rfl⟩ := h
  exact takeBytes_append a r

theorem dropBytes_of_isPrefix {a t : Text} (h : a <+: t) : dropBytes (bytes a) t = t.drop a.length := by
  obtain ⟨r, rfl⟩ := h
  rw [dropBytes_append, List.drop_left]

theorem slice_of_isPrefix {a b t : Text} (h : a ++ b <+: t) :
    slice t (bytes a) (bytes (a ++ b)) = b := by
  obtain ⟨r, rfl⟩ := h
  rw [slice, bytes_append, Nat.add_sub_cancel_left, List.append_assoc, dropBytes_append,
    takeBytes_append]

/-- The least beginning that has `n` UTF-16 units or more, or the whole text if it has fewer. -/
def takeUnits : Nat → Text → Text
  | _, [] => []
  | 0, _ :: _ => []
  | n + 1, c :: t => c :: takeUnits (n + 1 - charUnits c) t

theorem takeUnits_isPrefix (n : Nat) (t : Text) : takeUnits n t <+: t := by
  fun_induction takeUnits n t with
  | case1 => exact List.prefix_rfl
  | case2 => exact List.nil_prefix
  | case3 n c t ih => exact List.prefix_cons_inj c |>.mpr ih

theorem takeUnits_units {a t : Text} (h : a <+: t) : takeUnits (units a) t = a := by
  obtain ⟨r, rfl⟩ := h
  induction a with
  | nil => cases r <;> rfl
  | cons c a ih =>
    have hc := charUnits_pos c
    obtain ⟨n, hn⟩ : ∃ n, charUnits c + units a = n + 1 := ⟨charUnits c + units a - 1, by omega⟩
    have hrest : n + 1 - charUnits c = units a := by omega
    rw [units_cons, hn, List.cons_append, takeUnits, hrest, ih]

theorem le_units_takeUnits (n : Nat) (t : Text) : n ≤ units (takeUnits n t) ∨ takeUnits n t = t := by
  fun_induction takeUnits n t with
  | case1 => exact Or.inr rfl
  | case2 => exact Or.inl (Nat.zero_le _)
  | case3 n c t ih =>
    rcases ih with hle | heq
    · left
      rw [units_cons]
      omega
    · exact Or.inr (by rw [heq])

theorem takeUnits_isPrefix_of_le {n : Nat} {a t : Text} (h : a <+: t) (hn : n ≤ units a) : takeUnits n t <+: a := by
  fun_induction takeUnits n t generalizing a with
  | case1 => exact List.nil_prefix
  | case2 => exact List.nil_prefix
  | case3 n c t ih =>
    cases a with
    | nil => exact absurd hn (Nat.not_succ_le_zero n)
    | cons d a =>
      obtain ⟨rfl, ha⟩ := List.cons_prefix_cons.1 h
      rw [units_cons] at hn
      exact List.cons_prefix_cons.2 ⟨rfl, ih ha (by omega)⟩

theorem offsetOfUnits?_getD (n : Nat) (t : Text) :
    (offsetOfUnits? t n).getD (bytes t) = bytes (takeUnits n t) := by
  fun_induction takeUnits n t with
  | case1 n => cases n <;> rfl
  | case2 => rfl
  | case3 n c t ih =>
    simp only [offsetOfUnits?, bytes_cons, ← ih]
    cases offsetOfUnits? t (n + 1 - charUnits c) <;> rfl

end SyntaxServer.Text
