import SyntaxServer.Proofs.Text.Lines

/-! # Texts in UTF-16

The code units of a text, and where they may be cut: an index that does not lie between the two halves of
a surrogate pair is the size of a beginning of the text. Lines are the same in units as in characters.
-/
namespace SyntaxServer

namespace Text

/-- The UTF-16 units of a character: one, or the two halves of a surrogate pair. -/
def charUtf16 (c : Char) : List UInt16 :=
  if c.toNat < 0x10000 then [.ofNat c.toNat]
  else [.ofNat (0xD800 + (c.toNat - 0x10000) / 0x400), .ofNat (0xDC00 + (c.toNat - 0x10000) % 0x400)]

def utf16 (t : Text) : List UInt16 := t.flatMap charUtf16

def isHighHalf (u : UInt16) : Bool := 0xD800 ≤ u.toNat && u.toNat < 0xDC00

def isLowHalf (u : UInt16) : Bool := 0xDC00 ≤ u.toNat && u.toNat < 0xE000

/-- An index lies inside a surrogate pair: the unit before it is a high half and the one behind it a low
half. -/
def insidePair (us : List UInt16) : Nat → Bool
  | 0 => false
  | i + 1 => us[i]?.any isHighHalf && us[i + 1]?.any isLowHalf

@[simp] theorem utf16_nil : utf16 [] = [] := rfl

@[simp] theorem utf16_cons (c : Char) (t : Text) : utf16 (c :: t) = charUtf16 c ++ utf16 t := rfl

@[simp] theorem utf16_append (s t : Text) : utf16 (s ++ t) = utf16 s ++ utf16 t :=
  List.flatMap_append

theorem charUnits_eq (c : Char) : charUnits c = if c.toNat < 0x10000 then 1 else 2 := by
  rfl

/-- A character has one unit, its number, or two that are the halves of a pair. -/
theorem charUtf16_cases (c : Char) :
    (charUnits c = 1 ∧ c.toNat < 0x10000 ∧ charUtf16 c = [.ofNat c.toNat]) ∨
    (charUnits c = 2 ∧ ∃ h l, charUtf16 c = [h, l] ∧ isHighHalf h ∧ isLowHalf l) := by
  by_cases hc : c.toNat < 0x10000
  · exact Or.inl ⟨by rw [charUnits_eq, if_pos hc],hc,by rw [charUtf16, if_pos hc]⟩
  · have hv : c.toNat < 0x110000 := by
      have h := c.valid
      simp only [UInt32.isValidChar, Nat.isValidChar] at h
      change c.toNat < 55296 ∨ 57343 < c.toNat ∧ c.toNat < 1114112 at h
      omega
    refine Or.inr ⟨by rw [charUnits_eq, if_neg hc],_,_,by rw [charUtf16, if_neg hc],?_,?_⟩
    · simp only [isHighHalf, UInt16.toNat_ofNat', Bool.and_eq_true, decide_eq_true_eq]
      omega
    · simp only [isLowHalf, UInt16.toNat_ofNat', Bool.and_eq_true, decide_eq_true_eq]
      omega

@[simp] theorem length_charUtf16 (c : Char) : (charUtf16 c).length = charUnits c := by
  rcases charUtf16_cases c with ⟨hu,_,h⟩ | ⟨hu,_,_,h,_⟩ <;> simp [h, hu]

@[simp] theorem length_utf16 (t : Text) : (utf16 t).length = units t := by
  induction t with
  | nil => rfl
  | cons c t ih => simp [ih]

theorem insidePair_append {v : List UInt16} {i : Nat} (h : insidePair v i) (u w : List UInt16) :
    insidePair (u ++ v ++ w) (u.length + i) := by
  have ha : ∀ j, v[j]? ≠ none → (u ++ v ++ w)[u.length + j]? = v[j]? := by
    intro j hj
    have hlt : j < v.length := by
      simp only [ne_eq, List.getElem?_eq_none_iff] at hj
      omega
    rw [List.append_assoc, List.getElem?_append_right (by omega), Nat.add_sub_cancel_left,
      List.getElem?_append_left hlt]
  cases i with
  | zero => cases h
  | succ i =>
    simp only [insidePair, Bool.and_eq_true] at h
    have h₀ : v[i]? ≠ none := by intro hn; simp [hn] at h
    have h₁ : v[i + 1]? ≠ none := by intro hn; simp [hn] at h
    rw [← Nat.add_assoc, insidePair, Nat.add_assoc, ha i h₀, ha (i + 1) h₁, h.1, h.2]
    rfl

theorem lt_length_of_insidePair {us : List UInt16} {i : Nat} (h : insidePair us i) :
    i < us.length := by
  cases i with
  | zero => cases h
  | succ i =>
    simp only [insidePair, Bool.and_eq_true] at h
    have hi : us[i + 1]? ≠ none := by intro hn; simp [hn] at h
    simp only [ne_eq, List.getElem?_eq_none_iff] at hi
    omega

theorem units_takeUnits {t : Text} {n : Nat} (h : ¬ insidePair (utf16 t) n) :
    units (takeUnits n t) = min n (units t) := by
  fun_induction takeUnits n t with
  | case1 n => simp
  | case2 => simp
  | case3 n c t ih =>
    simp only [units_cons]
    by_cases hle : charUnits c ≤ n + 1
    · have hi : ¬ insidePair (utf16 t) (n + 1 - charUnits c) := by
        intro hi
        have hs := insidePair_append hi (charUtf16 c) []
        rw [length_charUtf16, List.append_nil, Nat.add_sub_cancel' hle] at hs
        exact h hs
      rw [ih hi]
      omega
    · -- only the middle of a pair is left
      rcases charUtf16_cases c with ⟨hu,_,_⟩ | ⟨hu,a,b,hab,ha,hb⟩
      · omega
      · obtain rfl : n = 0 := by omega
        simp [insidePair, hab, ha, hb] at h

end Text

namespace Line

/-- A line in UTF-16. -/
def utf16 (l : Line Char) : Line UInt16 := ⟨Text.utf16 l.content, Text.utf16 l.ending⟩

theorem before_map_utf16 (ls : List (Line Char)) (n : Nat) :
    before (ls.map utf16) n = Text.utf16 (before ls n) := by
  induction ls generalizing n with
  | nil => simp [before]
  | cons l ls ih =>
    cases n with
    | zero => simp
    | succ n => simp [ih, whole, utf16]

/-- A character is told from one below the surrogates by each of its units. -/
theorem ne_of_mem_charUtf16 {c k : Char} (hk : k.toNat < 0xD800) (hne : c ≠ k) {u : UInt16}
    (hu : u ∈ Text.charUtf16 c) : u ≠ .ofNat k.toNat := by
  intro heq
  have hn : u.toNat = k.toNat := by
    rw [heq, UInt16.toNat_ofNat', Nat.mod_eq_of_lt (by omega)]
  rcases Text.charUtf16_cases c with ⟨_,hc,h⟩ | ⟨_,a,b,h,ha,hb⟩
  · rw [h, List.mem_singleton] at hu
    rw [hu, UInt16.toNat_ofNat', Nat.mod_eq_of_lt hc] at hn
    exact hne (Char.toNat_inj.mp hn)
  · simp only [Text.isHighHalf, Text.isLowHalf, Bool.and_eq_true, decide_eq_true_eq] at ha hb
    rw [h, List.mem_cons, List.mem_singleton] at hu
    rcases hu with rfl | rfl <;> omega

theorem foldr_extend (us : List UInt16) (l : Line UInt16) (ls : List (Line UInt16)) :
    us.foldr extend (l :: ls) = ⟨us ++ l.content, l.ending⟩ :: ls := by
  induction us with
  | nil => rfl
  | cons u us ih => simp [ih, extend]

theorem split_append_of_ne {us : List UInt16} (hus : ∀ u ∈ us, u ≠ 13 ∧ u ≠ 10) (vs : List UInt16) :
    split 13 10 (us ++ vs) = us.foldr extend (split 13 10 vs) := by
  induction us with
  | nil => rfl
  | cons u us ih =>
    have hu := hus u (List.mem_cons_self ..)
    rw [List.cons_append, split_other hu.1 hu.2, ih (fun v hv => hus v (List.mem_cons_of_mem _ hv))]
    rfl

theorem split_utf16 (t : Text) : split 13 10 (Text.utf16 t) = t.lines.map utf16 := by
  have hne : '\r' ≠ '\n' := by decide
  have hne' : (13 : UInt16) ≠ 10 := by decide
  unfold Text.lines
  induction t using split_induction hne with
  | nil => rfl
  | line_feed t ih =>
    have hu : Text.utf16 ('\n' :: t) = 10 :: Text.utf16 t := rfl
    rw [hu, split_lf, split_lf, ih]
    rfl
  | pair t ih =>
    have hu : Text.utf16 ('\r' :: '\n' :: t) = 13 :: 10 :: Text.utf16 t := rfl
    rw [hu, split_cr_lf hne', split_cr_lf hne, ih]
    rfl
  | lone t ht ih =>
    have hu : Text.utf16 ('\r' :: t) = 13 :: Text.utf16 t := rfl
    have hh : (Text.utf16 t).head? ≠ some 10 := by
      cases t with
      | nil => simp
      | cons c t =>
        intro h
        have hu : 10 ∈ Text.charUtf16 c := by
          rcases Text.charUtf16_cases c with ⟨_,_,hc⟩ | ⟨_,a,b,hc,_,_⟩ <;> simp_all
        exact ne_of_mem_charUtf16 (k := '\n') (by decide) (by simpa using ht) hu rfl
    rw [hu, split_cr hne' hh, split_cr hne ht, ih]
    rfl
  | other c t hcr hlf ih =>
    have hus : ∀ u ∈ Text.charUtf16 c, u ≠ 13 ∧ u ≠ 10 := fun u hu =>
      ⟨ne_of_mem_charUtf16 (k := '\r') (by decide) hcr hu,
        ne_of_mem_charUtf16 (k := '\n') (by decide) hlf hu⟩
    obtain ⟨l,ls,hls⟩ := List.exists_cons_of_ne_nil (split_ne_nil '\r' '\n' t)
    rw [Text.utf16_cons, split_append_of_ne hus, ih, split_other hcr hlf, hls, List.map_cons,
      foldr_extend]
    rfl

end Line

end SyntaxServer
