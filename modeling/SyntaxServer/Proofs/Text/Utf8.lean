import SyntaxServer.Text.Utf8

/-! # Reading UTF-8 back

Every text is read back from its bytes, and nothing but the bytes of a text can be read. The argument goes character
by character, by the number of bytes a character takes; the second byte decides whether a form is overlong, a
surrogate or too large.
-/
namespace SyntaxServer.Utf8

theorem toNat_ofNat_of_lt {n : Nat} (h : n < 256) : (UInt8.ofNat n).toNat = n := by
  rw [UInt8.toNat_ofNat', Nat.mod_eq_of_lt h]

theorem ofNat_lt_iff {n : Nat} (h : n < 256) (k : UInt8) : UInt8.ofNat n < k ↔ n < k.toNat := by
  rw [UInt8.lt_iff_toNat_lt, toNat_ofNat_of_lt h]

theorem isTail_ofNat {n : Nat} (h : n < 64) : isTail (UInt8.ofNat (n + 0x80)) := by
  have hbyte := toNat_ofNat_of_lt (show n + 0x80 < 256 by omega)
  simp only [isTail, UInt8.le_iff_toNat_le, hbyte, UInt8.reduceToNat, Bool.and_eq_true, decide_eq_true_eq]
  omega

theorem tailBits_ofNat {n : Nat} (h : n < 64) : tailBits (UInt8.ofNat (n + 0x80)) = n := by
  rw [tailBits, toNat_ofNat_of_lt (by omega)]
  omega

theorem isSecond_ofNat {a n : Nat} (ha : a < 256) (hn : n < 64) (h0 : a = 0xE0 → 0x20 ≤ n)
    (hD : a = 0xED → n < 0x20) (h1 : a = 0xF0 → 0x10 ≤ n) (h4 : a = 0xF4 → n < 0x10) :
    isSecond (UInt8.ofNat a) (UInt8.ofNat (n + 0x80)) := by
  have hlead (k : UInt8) : UInt8.ofNat a = k ↔ a = k.toNat := by
    rw [← UInt8.toNat_inj, toNat_ofNat_of_lt ha]
  have hbyte := toNat_ofNat_of_lt (show n + 0x80 < 256 by omega)
  simp only [isSecond, isTail_ofNat hn, Bool.true_and, Bool.and_eq_true, Bool.or_eq_true, bne_iff_ne,
    decide_eq_true_eq, ne_eq, hlead, UInt8.le_iff_toNat_le, hbyte, UInt8.reduceToNat]
  omega

section Characters

variable (acc : Text) (s : Bytes) {n : Nat}

theorem decodeFrom_one (h : n ≤ 0x7F) :
    decodeFrom acc (UInt8.ofNat n :: s) = decodeFrom (Char.ofNat n :: acc) s := by
  have ha : n < 256 := by omega
  rw [decodeFrom.eq_def]
  simp only [ofNat_lt_iff ha, toNat_ofNat_of_lt ha, UInt8.reduceToNat]
  rw [if_pos (by omega)]

theorem decodeFrom_two (hl : 0x7F < n) (hu : n ≤ 0x7FF) :
    decodeFrom acc (UInt8.ofNat (n / 64 % 0x20 + 0xC0) :: UInt8.ofNat (n % 0x40 + 0x80) :: s) =
      decodeFrom (Char.ofNat n :: acc) s := by
  have ha : n / 64 % 0x20 + 0xC0 < 256 := by omega
  have h1 : n % 0x40 < 64 := by omega
  simp only [decodeFrom, ofNat_lt_iff ha, toNat_ofNat_of_lt ha, isTail_ofNat h1, tailBits_ofNat h1,
    UInt8.reduceToNat, if_true]
  rw [if_neg (by omega), if_neg (by omega), if_pos (by omega)]
  rw [show (n / 64 % 0x20 + 0xC0) % 32 * 64 + n % 0x40 = n by omega]

theorem decodeFrom_three (hl : 0x7FF < n) (hu : n ≤ 0xFFFF) (hn : n < 0xD800 ∨ 0xDFFF < n) :
    decodeFrom acc (UInt8.ofNat (n / 4096 % 0x10 + 0xE0) :: UInt8.ofNat (n / 64 % 0x40 + 0x80) ::
      UInt8.ofNat (n % 0x40 + 0x80) :: s) = decodeFrom (Char.ofNat n :: acc) s := by
  have ha : n / 4096 % 0x10 + 0xE0 < 256 := by omega
  have h1 : n / 64 % 0x40 < 64 := by omega
  have h2 : n % 0x40 < 64 := by omega
  -- leads 0xE0 and 0xED are where overlong forms and surrogates would stand
  have hsecond := isSecond_ofNat ha h1 (by omega) (by omega) (by omega) (by omega)
  simp only [decodeFrom, ofNat_lt_iff ha, toNat_ofNat_of_lt ha, hsecond, isTail_ofNat h2, tailBits_ofNat h1,
    tailBits_ofNat h2, UInt8.reduceToNat, Bool.and_self, if_true]
  rw [if_neg (by omega), if_neg (by omega), if_neg (by omega), if_pos (by omega)]
  rw [show (n / 4096 % 0x10 + 0xE0) % 16 * 4096 + n / 64 % 0x40 * 64 + n % 0x40 = n by omega]

theorem decodeFrom_four (hl : 0xFFFF < n) (hu : n < 0x110000) :
    decodeFrom acc (UInt8.ofNat (n / 262144 % 0x08 + 0xF0) :: UInt8.ofNat (n / 4096 % 0x40 + 0x80) ::
      UInt8.ofNat (n / 64 % 0x40 + 0x80) :: UInt8.ofNat (n % 0x40 + 0x80) :: s) =
      decodeFrom (Char.ofNat n :: acc) s := by
  have ha : n / 262144 % 0x08 + 0xF0 < 256 := by omega
  have h1 : n / 4096 % 0x40 < 64 := by omega
  have h2 : n / 64 % 0x40 < 64 := by omega
  have h3 : n % 0x40 < 64 := by omega
  have hsecond := isSecond_ofNat ha h1 (by omega) (by omega) (by omega) (by omega)
  simp only [decodeFrom, ofNat_lt_iff ha, toNat_ofNat_of_lt ha, hsecond, isTail_ofNat h2, isTail_ofNat h3,
    tailBits_ofNat h1, tailBits_ofNat h2, tailBits_ofNat h3, UInt8.reduceToNat, Bool.and_self, if_true]
  rw [if_neg (by omega), if_neg (by omega), if_neg (by omega), if_neg (by omega), if_pos (by omega)]
  rw [show (n / 262144 % 0x08 + 0xF0) % 8 * 262144 + n / 4096 % 0x40 * 4096 + n / 64 % 0x40 * 64 +
    n % 0x40 = n by omega]

end Characters

/-- One character is read off its bytes, whatever comes after them. -/
theorem decodeFrom_utf8EncodeChar (acc : Text) (c : Char) (s : Bytes) :
    decodeFrom acc (String.utf8EncodeChar c ++ s) = decodeFrom (c :: acc) s := by
  have hvalid : c.val.toNat < 0xD800 ∨ 0xDFFF < c.val.toNat ∧ c.val.toNat < 0x110000 := c.valid
  have hc : Char.ofNat c.val.toNat = c := Char.ofNat_toNat c
  simp only [String.utf8EncodeChar]
  split
  · exact (decodeFrom_one acc s (by omega)).trans (by rw [hc])
  split
  · exact (decodeFrom_two acc s (by omega) (by omega)).trans (by rw [hc])
  split
  · exact (decodeFrom_three acc s (by omega) (by omega) (by omega)).trans (by rw [hc])
  · exact (decodeFrom_four acc s (by omega) (by omega)).trans (by rw [hc])

theorem decodeFrom_encode (acc t : Text) : decodeFrom acc (encode t) = some (acc.reverse ++ t) := by
  induction t generalizing acc with
  | nil => simp [encode, decodeFrom]
  | cons c t ih =>
    rw [encode, List.flatMap_cons, decodeFrom_utf8EncodeChar, ← encode, ih]
    simp

@[simp] theorem decode?_encode (t : Text) : decode? (encode t) = some t :=
  decodeFrom_encode [] t

theorem toNat_ofNat_of_valid {n : Nat} (h : n.isValidChar) : (Char.ofNat n).val.toNat = n := by
  rw [Char.ofNat, dif_pos h]
  rfl

theorem ofNat_eq_iff {n : Nat} (h : n < 256) {b : UInt8} : UInt8.ofNat n = b ↔ n = b.toNat := by
  rw [← UInt8.toNat_inj, toNat_ofNat_of_lt h]

section Bytes

variable {a b c d : UInt8}

theorem isTail_iff : isTail b ↔ 0x80 ≤ b.toNat ∧ b.toNat ≤ 0xBF := by
  simp [isTail, UInt8.le_iff_toNat_le]

theorem isSecond_iff : isSecond a b ↔
    (0x80 ≤ b.toNat ∧ b.toNat ≤ 0xBF) ∧ (a.toNat = 0xE0 → 0xA0 ≤ b.toNat) ∧
      (a.toNat = 0xED → b.toNat ≤ 0x9F) ∧ (a.toNat = 0xF0 → 0x90 ≤ b.toNat) ∧
      (a.toNat = 0xF4 → b.toNat ≤ 0x8F) := by
  simp only [isSecond, Bool.and_eq_true, isTail_iff, Bool.or_eq_true, bne_iff_ne, ne_eq, decide_eq_true_eq,
    UInt8.le_iff_toNat_le, ← UInt8.toNat_inj, UInt8.reduceToNat]
  omega

theorem utf8EncodeChar_one (ha : a < 0x80) : String.utf8EncodeChar (Char.ofNat a.toNat) = [a] := by
  simp only [UInt8.lt_iff_toNat_lt, UInt8.reduceToNat] at ha
  have hn : (Char.ofNat a.toNat).val.toNat = a.toNat := toNat_ofNat_of_valid (.inl (by omega))
  simp only [String.utf8EncodeChar, hn]
  rw [if_pos (by omega), UInt8.ofNat_toNat]

theorem utf8EncodeChar_two (ha : ¬ a < 0xC2) (ha' : a < 0xE0) (hb : isTail b) :
    String.utf8EncodeChar (Char.ofNat (a.toNat % 32 * 64 + tailBits b)) = [a, b] := by
  rw [isTail_iff] at hb
  simp only [UInt8.lt_iff_toNat_lt, UInt8.reduceToNat] at ha ha'
  unfold tailBits
  generalize hn : a.toNat % 32 * 64 + b.toNat % 64 = n
  have hchar : (Char.ofNat n).val.toNat = n := toNat_ofNat_of_valid (.inl (by omega))
  simp only [String.utf8EncodeChar, hchar]
  rw [if_neg (by omega), if_pos (by omega)]
  simp only [List.cons.injEq, and_true]
  exact ⟨(ofNat_eq_iff (by omega)).2 (by omega), (ofNat_eq_iff (by omega)).2 (by omega)⟩

theorem utf8EncodeChar_three (ha : ¬ a < 0xE0) (ha' : a < 0xF0) (hb : isSecond a b) (hc : isTail c) :
    String.utf8EncodeChar (Char.ofNat (a.toNat % 16 * 4096 + tailBits b * 64 + tailBits c)) = [a, b, c] := by
  rw [isSecond_iff] at hb
  rw [isTail_iff] at hc
  simp only [UInt8.lt_iff_toNat_lt, UInt8.reduceToNat] at ha ha'
  unfold tailBits
  generalize hn : a.toNat % 16 * 4096 + b.toNat % 64 * 64 + c.toNat % 64 = n
  have hvalid : n < 0xD800 ∨ 0xDFFF < n ∧ n < 0x110000 := by omega
  have hchar : (Char.ofNat n).val.toNat = n := toNat_ofNat_of_valid hvalid
  simp only [String.utf8EncodeChar, hchar]
  rw [if_neg (by omega), if_neg (by omega), if_pos (by omega)]
  simp only [List.cons.injEq, and_true]
  exact ⟨(ofNat_eq_iff (by omega)).2 (by omega), (ofNat_eq_iff (by omega)).2 (by omega),
    (ofNat_eq_iff (by omega)).2 (by omega)⟩

theorem utf8EncodeChar_four (ha : ¬ a < 0xF0) (ha' : a < 0xF5) (hb : isSecond a b) (hc : isTail c)
    (hd : isTail d) :
    String.utf8EncodeChar
      (Char.ofNat (a.toNat % 8 * 262144 + tailBits b * 4096 + tailBits c * 64 + tailBits d)) = [a, b, c, d] := by
  rw [isSecond_iff] at hb
  rw [isTail_iff] at hc hd
  simp only [UInt8.lt_iff_toNat_lt, UInt8.reduceToNat] at ha ha'
  unfold tailBits
  generalize hn : a.toNat % 8 * 262144 + b.toNat % 64 * 4096 + c.toNat % 64 * 64 + d.toNat % 64 = n
  have hvalid : n < 0xD800 ∨ 0xDFFF < n ∧ n < 0x110000 := by omega
  have hchar : (Char.ofNat n).val.toNat = n := toNat_ofNat_of_valid hvalid
  simp only [String.utf8EncodeChar, hchar]
  rw [if_neg (by omega), if_neg (by omega), if_neg (by omega)]
  simp only [List.cons.injEq, and_true]
  exact ⟨(ofNat_eq_iff (by omega)).2 (by omega), (ofNat_eq_iff (by omega)).2 (by omega),
    (ofNat_eq_iff (by omega)).2 (by omega), (ofNat_eq_iff (by omega)).2 (by omega)⟩

end Bytes

theorem encode_append (s t : Text) : encode (s ++ t) = encode s ++ encode t := List.flatMap_append

/-- The text that is read has the bytes it was read from, behind those of the characters read before. -/
theorem decodeFrom_eq_some {acc t : Text} {s : Bytes} (h : decodeFrom acc s = some t) :
    encode t = encode acc.reverse ++ s := by
  -- each branch of the reader that goes on takes one character whole
  have hpush {acc : Text} {c : Char} {bs s : Bytes} (hc : String.utf8EncodeChar c = bs)
      (ih : encode t = encode (c :: acc).reverse ++ s) : encode t = encode acc.reverse ++ (bs ++ s) := by
    rw [ih, List.reverse_cons, encode_append, List.append_assoc, ← hc]
    simp [encode]
  fun_induction decodeFrom acc s with
  | case1 acc => simp_all
  | case2 acc a s ha ih => exact hpush (utf8EncodeChar_one ha) (ih h)
  | case4 acc a _ ha ha' b s hb ih => exact hpush (utf8EncodeChar_two ha ha' hb) (ih h)
  | case7 acc a _ _ ha ha' b c s hbc ih =>
    rw [Bool.and_eq_true] at hbc
    exact hpush (utf8EncodeChar_three ha ha' hbc.1 hbc.2) (ih h)
  | case10 acc a _ _ _ ha ha' b c d s hbcd ih =>
    rw [Bool.and_eq_true, Bool.and_eq_true] at hbcd
    exact hpush (utf8EncodeChar_four ha ha' hbcd.1.1 hbcd.1.2 hbcd.2) (ih h)
  | _ => cases h

theorem decode?_eq_some_iff {s : Bytes} {t : Text} : decode? s = some t ↔ s = encode t := by
  constructor
  · intro h
    exact (decodeFrom_eq_some h).symm
  · rintro rfl
    exact decode?_encode t

/-- A byte below 0x80 is a whole character. -/
theorem toNat_eq_of_mem_utf8EncodeChar {b : UInt8} {c : Char} (hb : b < 0x80) (h : b ∈ String.utf8EncodeChar c) :
    c.val.toNat = b.toNat := by
  have hbyte {n : Nat} (hn : n < 256) (h : b = UInt8.ofNat n) : n = b.toNat := (ofNat_eq_iff hn).1 h.symm
  simp only [UInt8.lt_iff_toNat_lt, UInt8.reduceToNat] at hb
  simp only [String.utf8EncodeChar] at h
  split at h
  · exact hbyte (by omega) (List.mem_singleton.1 h)
  split at h
  · simp only [List.mem_cons, List.not_mem_nil, or_false] at h
    rcases h with h | h <;> have := hbyte (by omega) h <;> omega
  split at h
  · simp only [List.mem_cons, List.not_mem_nil, or_false] at h
    rcases h with h | h | h <;> have := hbyte (by omega) h <;> omega
  · simp only [List.mem_cons, List.not_mem_nil, or_false] at h
    rcases h with h | h | h | h <;> have := hbyte (by omega) h <;> omega

end SyntaxServer.Utf8
