import Mathlib.Data.Prod.Lex
import SyntaxServer.Proofs.Text.Positions

/-! # The order of places

Points are ordered by row and then by column, positions by line and then by character. Both ways of naming an offset
keep the order of the offsets, although rows and lines end at different places and their columns are counted in
different units.
-/
namespace SyntaxServer

namespace Point

instance : LinearOrder Point :=
  LinearOrder.lift' (fun p => toLex (p.row, p.column)) (by
    rintro ⟨r,c⟩ ⟨r',c'⟩ h
    cases h
    rfl)

theorem le_def {p q : Point} : p ≤ q ↔ p.row < q.row ∨ p.row = q.row ∧ p.column ≤ q.column := Prod.Lex.toLex_le_toLex

theorem lt_def {p q : Point} : p < q ↔ p.row < q.row ∨ p.row = q.row ∧ p.column < q.column := Prod.Lex.toLex_lt_toLex

theorem row_le {p q : Point} (h : p ≤ q) : p.row ≤ q.row := by
  rcases le_def.1 h with hlt | ⟨heq,_⟩
  · exact hlt.le
  · exact heq.le

theorem le_eq_true_iff {p q : Point} : p.le q = true ↔ p ≤ q := by
  simp [Point.le, le_def]

theorem within_eq_true_iff {p start stop : Point} : p.within start stop = true ↔ start ≤ p ∧ p ≤ stop := by
  rw [within, Bool.and_eq_true, le_eq_true_iff, le_eq_true_iff]

theorem lt_advance (p : Point) {t : Text} (ht : t ≠ []) : p < p.advance t := by
  rw [lt_def, advance]
  split
  · next h =>
    have hcount := List.count_pos_iff.2 h
    left
    change p.row < p.row + _
    omega
  · have hbytes := Text.bytes_pos_iff.2 ht
    right
    change p.row = p.row ∧ p.column < p.column + _
    omega

end Point

namespace Position

instance : LinearOrder Position :=
  LinearOrder.lift' (fun p => toLex (p.line, p.character)) (by
    rintro ⟨l,c⟩ ⟨l',c'⟩ h
    cases h
    rfl)

theorem le_def {p q : Position} : p ≤ q ↔ p.line < q.line ∨ p.line = q.line ∧ p.character ≤ q.character :=
  Prod.Lex.toLex_le_toLex

theorem lt_def {p q : Position} : p < q ↔ p.line < q.line ∨ p.line = q.line ∧ p.character < q.character :=
  Prod.Lex.toLex_lt_toLex

end Position

namespace LineTable

open Text (EndsOn)

variable {t a b u v : Text} {m n : Nat} {k l : Line Char}

theorem position_lt_of_endsOn (ha : EndsOn t a m k u) (hb : EndsOn t b n l v) (h : Text.bytes a < Text.bytes b) :
    (⟨m,Text.units u⟩ : Position) < ⟨n,Text.units v⟩ := by
  rw [Position.lt_def]
  rcases Nat.lt_trichotomy m n with hlt | rfl | hgt
  · exact Or.inl hlt
  · have huv : Text.units u < Text.units v := by
      obtain rfl : k = l := Option.some.inj (ha.line.symm.trans hb.line)
      rw [ha.eq_append, hb.eq_append, Text.bytes_append, Text.bytes_append] at h
      exact (Text.bytes_lt_iff_units_lt ha.part hb.part).1 (by omega)
    exact Or.inr ⟨rfl,huv⟩
  · -- the line of the larger beginning would end before the line of the smaller starts
    have hbehind := hb.bytes_lt_before hgt ha.line_lt
    rw [ha.eq_append, Text.bytes_append] at h
    omega

variable {x y : Nat}

theorem point_lt_point (hx : Text.IsBoundary t x) (hy : Text.IsBoundary t y) (h : x < y) :
    (ofText t).point x < (ofText t).point y := by
  obtain ⟨a,ha,rfl⟩ := Text.isBoundary_iff.1 hx
  obtain ⟨b,hb,rfl⟩ := Text.isBoundary_iff.1 hy
  rw [point_ofText ha, point_ofText hb]
  obtain ⟨r,rfl⟩ := Text.isPrefix_of_bytes_le ha hb h.le
  rw [Text.endPoint_append]
  refine Point.lt_advance _ ?_
  rintro rfl
  rw [List.append_nil] at h
  exact h.false

theorem position_lt_position (hsize : Text.bytes t < UInt32.size) (hx : Text.IsBoundary t x)
    (hy : Text.IsBoundary t y) (h : x < y) :
    (ofText t).position t ((ofText t).point x) < (ofText t).position t ((ofText t).point y) := by
  obtain ⟨a,ha,rfl⟩ := Text.isBoundary_iff.1 hx
  obtain ⟨b,hb,rfl⟩ := Text.isBoundary_iff.1 hy
  obtain ⟨m,k,u,hu⟩ := Text.exists_endsOn ha
  obtain ⟨n,l,v,hv⟩ := Text.exists_endsOn hb
  rw [position_of_endsOn hsize hu, position_of_endsOn hsize hv]
  exact position_lt_of_endsOn hu hv h

end LineTable

/-- A point of a text: a character starts there, or the text ends. -/
def Text.HasPoint (t : Text) (p : Point) : Prop := ∃ o, Text.IsBoundary t o ∧ (LineTable.ofText t).point o = p

instance (t : Text) (p : Point) : Decidable (t.HasPoint p) :=
  decidable_of_iff (∃ o ≤ Text.bytes t, Text.IsBoundary t o ∧ (LineTable.ofText t).point o = p) (by
    constructor
    · rintro ⟨o,_,h⟩
      exact ⟨o,h⟩
    · rintro ⟨o,ho,h⟩
      obtain ⟨a,ha,rfl⟩ := Text.isBoundary_iff.1 ho
      exact ⟨_,Text.bytes_le_of_isPrefix ha,ho,h⟩)

theorem LineTable.position_le_position {t : Text} (hsize : Text.bytes t < UInt32.size) {p q : Point}
    (hp : t.HasPoint p) (hq : t.HasPoint q) (h : p ≤ q) : (ofText t).position t p ≤ (ofText t).position t q := by
  obtain ⟨x,hx,rfl⟩ := hp
  obtain ⟨y,hy,rfl⟩ := hq
  rcases Nat.lt_trichotomy x y with hlt | rfl | hgt
  · exact (position_lt_position hsize hx hy hlt).le
  · exact le_rfl
  · exact absurd h (point_lt_point hy hx hgt).not_ge

end SyntaxServer
