/-! # Text and its measures

A text is a list of characters. Syntax trees count it in UTF-8 bytes and editors in UTF-16 units, so
both are measures on the list, and an offset is the size of a beginning of the text. Cutting a text at an
offset keeps whole characters.
-/
namespace SyntaxServer

abbrev Text := List Char

namespace Text

/-- The number of UTF-16 units of a character. -/
def charUnits (c : Char) : Nat := if c.val < 0x10000 then 1 else 2

/-- The number of UTF-8 bytes of a text. -/
def bytes : Text → Nat
  | [] => 0
  | c :: t => c.utf8Size + bytes t

/-- The number of UTF-16 units of a text. -/
def units : Text → Nat
  | [] => 0
  | c :: t => charUnits c + units t

/-- The longest beginning of a text that has at most `n` bytes. -/
def takeBytes (n : Nat) : Text → Text
  | [] => []
  | c :: t => if c.utf8Size ≤ n then c :: takeBytes (n - c.utf8Size) t else []

/-- What follows `takeBytes n`. -/
def dropBytes (n : Nat) : Text → Text
  | [] => []
  | c :: t => if c.utf8Size ≤ n then dropBytes (n - c.utf8Size) t else c :: t

/-- An offset is a boundary when a character starts, or the text ends, there. -/
def IsBoundary (t : Text) (n : Nat) : Prop := bytes (takeBytes n t) = n

instance (t : Text) (n : Nat) : Decidable (IsBoundary t n) :=
  inferInstanceAs (Decidable (bytes (takeBytes n t) = n))

/-- The part of a text between two offsets. -/
def slice (t : Text) (start stop : Nat) : Text := takeBytes (stop - start) (dropBytes start t)

/-- The text with the part between two offsets replaced. -/
def splice (t : Text) (start stop : Nat) (replacement : Text) : Text :=
  takeBytes start t ++ replacement ++ dropBytes stop t

/-- The least offset that lies at or behind `n` UTF-16 units, if the text has that many. -/
def offsetOfUnits? : Text → Nat → Option Nat
  | _, 0 => some 0
  | [], _ + 1 => none
  | c :: t, n + 1 => (offsetOfUnits? t (n + 1 - charUnits c)).map (c.utf8Size + ·)

@[simp] theorem bytes_nil : bytes [] = 0 := rfl

@[simp] theorem bytes_cons (c : Char) (t : Text) : bytes (c :: t) = c.utf8Size + bytes t := rfl

@[simp] theorem bytes_append (s t : Text) : bytes (s ++ t) = bytes s + bytes t := by
  induction s with
  | nil => simp
  | cons c s ih => simp [ih, Nat.add_assoc]

@[simp] theorem units_nil : units [] = 0 := rfl

@[simp] theorem units_cons (c : Char) (t : Text) : units (c :: t) = charUnits c + units t := rfl

@[simp] theorem units_append (s t : Text) : units (s ++ t) = units s + units t := by
  induction s with
  | nil => simp
  | cons c s ih => simp [ih, Nat.add_assoc]

@[simp] theorem takeBytes_nil (n : Nat) : takeBytes n [] = [] := rfl

@[simp] theorem dropBytes_nil (n : Nat) : dropBytes n [] = [] := rfl

@[simp] theorem takeBytes_zero (t : Text) : takeBytes 0 t = [] := by
  cases t with
  | nil => rfl
  | cons c t => simp [takeBytes, Nat.not_le_of_lt c.utf8Size_pos]

@[simp] theorem dropBytes_zero (t : Text) : dropBytes 0 t = t := by
  cases t with
  | nil => rfl
  | cons c t => simp [dropBytes, Nat.not_le_of_lt c.utf8Size_pos]

@[simp] theorem takeBytes_append (s t : Text) : takeBytes (bytes s) (s ++ t) = s := by
  induction s with
  | nil => simp
  | cons c s ih => simp [takeBytes, ih]

@[simp] theorem dropBytes_append (s t : Text) : dropBytes (bytes s) (s ++ t) = t := by
  induction s with
  | nil => simp
  | cons c s ih => simp [dropBytes, ih]

@[simp] theorem takeBytes_append_dropBytes (n : Nat) (t : Text) :
    takeBytes n t ++ dropBytes n t = t := by
  induction t generalizing n with
  | nil => rfl
  | cons c t ih =>
    simp only [takeBytes, dropBytes]
    split <;> simp [ih]

/-- The boundaries of a text are the sizes of its beginnings. -/
theorem isBoundary_iff {t : Text} {n : Nat} : IsBoundary t n ↔ ∃ s, s <+: t ∧ bytes s = n := by
  constructor
  · intro h
    exact ⟨takeBytes n t, ⟨dropBytes n t, takeBytes_append_dropBytes n t⟩, h⟩
  · rintro ⟨s, ⟨r, rfl⟩, rfl⟩
    simp [IsBoundary]

end Text

end SyntaxServer
