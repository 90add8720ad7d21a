import SyntaxServer.Text.LineTable
import SyntaxServer.Proofs.Separator
import SyntaxServer.Proofs.Text.Beginning

/-! # Points are carried on

The line table looks a point up in a list of row starts, and writing a text on from a point looks only at the
text written. Both count the line feeds and the bytes behind the last of them. So a point found in one way may be
carried on in the other.
-/
namespace SyntaxServer

theorem Text.bytes_reverse (t : Text) : bytes t.reverse = bytes t := by
  induction t with
  | nil => rfl
  | cons c t ih =>
    simp only [List.reverse_cons, bytes_append, ih, bytes_cons, bytes_nil, Nat.add_zero, Nat.add_comm]

namespace Point

variable (p : Point)

theorem row_advance (t : Text) : (p.advance t).row = p.row + t.count '\n' := by
  rw [advance]
  split
  · rfl
  · next h => rw [List.count_eq_zero.2 h, Nat.add_zero]

theorem advance_of_not_mem {t : Text} (h : '\n' ∉ t) : p.advance t = ⟨p.row, p.column + Text.bytes t⟩ := if_neg h

/-- Behind a line feed the column no longer tells where the writing started. -/
theorem advance_append_cons (before : Text) {after : Text} (h : '\n' ∉ after) :
    p.advance (before ++ '\n' :: after) = ⟨p.row + (before.count '\n' + 1), Text.bytes after⟩ := by
  have hmem : '\n' ∈ before ++ '\n' :: after := by simp
  have hcount : (before ++ '\n' :: after).count '\n' = before.count '\n' + 1 := by
    rw [List.count_append, List.count_cons_self, List.count_eq_zero.2 h]
  rw [advance, if_pos hmem, hcount, reverse_takeWhile_append_cons before h, Text.bytes_reverse]

theorem advance_append (s t : Text) : p.advance (s ++ t) = (p.advance s).advance t := by
  -- the last line feed of the whole stands in the second text, or else in the first, or there is none
  rcases not_mem_or_exists_last '\n' t with ht | ⟨before,after,rfl,hafter⟩
  · rcases not_mem_or_exists_last '\n' s with hs | ⟨before,after,rfl,hafter⟩
    · have hst : '\n' ∉ s ++ t := by simp [hs, ht]
      rw [advance_of_not_mem p hst, advance_of_not_mem p hs, advance_of_not_mem _ ht, Text.bytes_append, Nat.add_assoc]
    · have hbehind : '\n' ∉ after ++ t := by simp [hafter, ht]
      rw [List.append_assoc, List.cons_append, advance_append_cons p before hbehind, advance_append_cons p before hafter,
        advance_of_not_mem _ ht, Text.bytes_append]
  · rw [← List.append_assoc, advance_append_cons p (s ++ before) hafter, advance_append_cons _ before hafter,
      row_advance, List.count_append]
    simp only [Nat.add_assoc]

end Point

namespace Text

/-- The point a text ends at: how many line feeds it has, and how many bytes stand behind the last of them. -/
def endPoint (t : Text) : Point := ⟨t.count '\n', bytes (t.reverse.takeWhile (· ≠ '\n'))⟩

theorem endPoint_eq_advance (t : Text) : endPoint t = Point.advance ⟨0, 0⟩ t := by
  rw [endPoint, Point.advance, Nat.zero_add, Nat.zero_add]
  split
  · rfl
  · next h =>
    have hall := decide_ne_of_not_mem (mt List.mem_reverse.1 h)
    rw [List.count_eq_zero.2 h, List.takeWhile_eq_self_iff.2 hall, bytes_reverse]

theorem endPoint_append (s t : Text) : endPoint (s ++ t) = (endPoint s).advance t := by
  rw [endPoint_eq_advance, endPoint_eq_advance, Point.advance_append]

end Text

namespace LineTable

section StartsAfter

variable {ends : Char → Text → Bool} {o x : Nat} {t : Text}

theorem mem_startsAfter_iff : x ∈ startsAfter ends o t ↔
    ∃ a c rest, t = a ++ c :: rest ∧ ends c rest = true ∧ x = o + Text.bytes (a ++ [c]) := by
  induction t generalizing o with
  | nil => simp [startsAfter]
  | cons d t ih =>
    have hcons : x ∈ startsAfter ends o (d :: t) ↔
        (ends d t = true ∧ x = o + d.utf8Size) ∨ x ∈ startsAfter ends (o + d.utf8Size) t := by
      rw [startsAfter]
      split <;> simp [*]
    rw [hcons, ih]
    constructor
    · rintro (⟨hends,rfl⟩ | ⟨a,c,rest,rfl,hends,rfl⟩)
      · exact ⟨[],d,t,rfl,hends,by simp⟩
      · exact ⟨d :: a,c,rest,rfl,hends,by simp [Nat.add_assoc]⟩
    · rintro ⟨a,c,rest,ht,hends,rfl⟩
      cases a with
      | nil =>
        obtain ⟨rfl,rfl⟩ := List.cons.inj ht
        exact .inl ⟨hends,by simp⟩
      | cons e a =>
        obtain ⟨rfl,rfl⟩ := List.cons.inj ht
        exact .inr ⟨a,c,rest,rfl,hends,by simp [Nat.add_assoc]⟩

theorem mem_startsAfter (h : x ∈ startsAfter ends o t) : o < x ∧ x ≤ o + Text.bytes t := by
  obtain ⟨a,c,rest,rfl,_,rfl⟩ := mem_startsAfter_iff.1 h
  have hc := c.utf8Size_pos
  simp only [Text.bytes_append, Text.bytes_cons, Text.bytes_nil]
  omega

theorem pairwise_startsAfter (ends : Char → Text → Bool) (o : Nat) (t : Text) :
    (startsAfter ends o t).Pairwise (· < ·) := by
  induction t generalizing o with
  | nil => exact List.Pairwise.nil
  | cons c t ih =>
    rw [startsAfter]
    split
    · exact List.pairwise_cons.2 ⟨fun x hx => (mem_startsAfter hx).1,ih _⟩
    · exact ih _

theorem pairwise_cons_startsAfter (ends : Char → Text → Bool) (t : Text) :
    (0 :: startsAfter ends 0 t).Pairwise (· < ·) :=
  List.pairwise_cons.2 ⟨fun _ hx => (mem_startsAfter hx).1,pairwise_startsAfter ends 0 t⟩

end StartsAfter

theorem startsAfter_endsRow_append (o : Nat) (s t : Text) :
    startsAfter endsRow o (s ++ t) = startsAfter endsRow o s ++ startsAfter endsRow (o + Text.bytes s) t := by
  induction s generalizing o with
  | nil => simp [startsAfter]
  | cons c s ih =>
    have htail := ih (o + c.utf8Size)
    rw [Nat.add_assoc] at htail
    by_cases hc : c = '\n'
    · subst hc
      simp [startsAfter, endsRow, htail]
    · simp [startsAfter, endsRow, hc, htail]

/-- A text has a row start for each line feed, and its last row starts as far before its end as the end point
says. -/
theorem startsAfter_endsRow_endPoint (t : Text) :
    (startsAfter endsRow 0 t).length = (Text.endPoint t).row ∧
      (startsAfter endsRow 0 t).getLast?.getD 0 + (Text.endPoint t).column = Text.bytes t := by
  have hreverse (u : Text) : (startsAfter endsRow 0 u.reverse).length = (Text.endPoint u.reverse).row ∧
      (startsAfter endsRow 0 u.reverse).getLast?.getD 0 + (Text.endPoint u.reverse).column =
        Text.bytes u.reverse := by
    -- the last character decides whether another row starts, so the text is taken apart from its end
    induction u with
    | nil => exact ⟨rfl,rfl⟩
    | cons c u ih =>
      obtain ⟨hlength,hlast⟩ := ih
      rw [List.reverse_cons, Text.endPoint_append, startsAfter_endsRow_append]
      by_cases hc : c = '\n'
      · simp [startsAfter, endsRow, Point.advance, hc, hlength]
      · have hc' : '\n' ≠ c := Ne.symm hc
        simp only [startsAfter, endsRow, beq_iff_eq, hc, if_false, List.append_nil, hlength, Point.advance,
          List.mem_singleton, hc', Text.bytes_cons, Text.bytes_nil, Nat.add_zero, Text.bytes_append, true_and]
        omega
  rw [← List.reverse_reverse t]
  exact hreverse t.reverse

/-- The starts up to an offset are counted, whatever starts behind it. -/
theorem lastStart_append {xs ys : List Nat} {o : Nat} (hx : ∀ x ∈ xs, x ≤ o) (hy : ∀ y ∈ ys, o < y) :
    lastStart (0 :: (xs ++ ys)) o = xs.length := by
  have hbefore : ∀ x ∈ xs, decide (x ≤ o) = true := fun x hm => decide_eq_true (hx x hm)
  have hbehind : ys.takeWhile (· ≤ o) = [] := by
    cases ys with
    | nil => rfl
    | cons y ys =>
      have hlt := hy y List.mem_cons_self
      simp [Nat.not_le.2 hlt]
  rw [lastStart, List.takeWhile_cons_of_pos (by simp), List.takeWhile_append_of_pos hbefore, hbehind]
  simp

theorem getD_length_append (xs ys : List Nat) : (0 :: (xs ++ ys)).getD xs.length 0 = xs.getLast?.getD 0 := by
  rcases List.eq_nil_or_concat xs with rfl | ⟨xs,x,rfl⟩
  · rfl
  · simp

/-- Where a beginning of a text ends, the table has the end point of that beginning. -/
theorem point_ofText {a t : Text} (h : a <+: t) : (ofText t).point (Text.bytes a) = Text.endPoint a := by
  obtain ⟨b,rfl⟩ := h
  obtain ⟨hlength,hlast⟩ := startsAfter_endsRow_endPoint a
  have hrows : (ofText (a ++ b)).rows =
      0 :: (startsAfter endsRow 0 a ++ startsAfter endsRow (Text.bytes a) b) := by
    simp only [ofText, startsAfter_endsRow_append, Nat.zero_add]
  have hrow : lastStart (ofText (a ++ b)).rows (Text.bytes a) = (startsAfter endsRow 0 a).length := by
    rw [hrows]
    refine lastStart_append ?_ ?_
    · intro x hx
      have hbounds := mem_startsAfter hx
      omega
    · intro y hy
      exact (mem_startsAfter hy).1
  have hcolumn : Text.bytes a - (startsAfter endsRow 0 a).getLast?.getD 0 = (Text.endPoint a).column := by
    omega
  simp only [point, hrow]
  rw [hrows, getD_length_append, hcolumn, hlength]

/-- Looking points up and carrying them on agree: from the point of one offset the text between leads to the point of
the other, wherever the text is cut, and from the beginning all that stands before an offset leads to its point. -/
theorem advance_point_slice (t : Text) :
    (∀ x y, Text.IsBoundary t x → Text.IsBoundary t y → x ≤ y →
      ((ofText t).point x).advance (Text.slice t x y) = (ofText t).point y) ∧
    (∀ y, Text.IsBoundary t y →
      (ofText t).point y = Point.advance ⟨0, 0⟩ (Text.takeBytes y t) ∧
      (ofText t).point y = Text.endPoint (Text.takeBytes y t)) ∧
    ∀ (p : Point) (s u : Text), p.advance (s ++ u) = (p.advance s).advance u := by
  refine ⟨?_,?_,Point.advance_append⟩
  · intro x y hx hy hle
    obtain ⟨a,ha,rfl⟩ := Text.isBoundary_iff.1 hx
    obtain ⟨b,hb,rfl⟩ := Text.isBoundary_iff.1 hy
    obtain ⟨r,rfl⟩ := Text.isPrefix_of_bytes_le ha hb hle
    rw [Text.slice_of_isPrefix hb, point_ofText ha, point_ofText hb, Text.endPoint_append]
  · intro y hy
    obtain ⟨b,hb,rfl⟩ := Text.isBoundary_iff.1 hy
    rw [Text.takeBytes_of_isPrefix hb, ← Text.endPoint_eq_advance]
    exact ⟨point_ofText hb,point_ofText hb⟩

/-- Between the two characters of a line ending, and from there to behind a carriage return that stands alone. -/
theorem advance_point_slice_lineEnds :
    let t : Text := "a\r\né\rb".toList
    Text.IsBoundary t 2 ∧ Text.IsBoundary t 6 ∧ (ofText t).point 2 = ⟨0, 2⟩ ∧ Text.slice t 2 6 = "\né\r".toList ∧
    ((ofText t).point 2).advance (Text.slice t 2 6) = (ofText t).point 6 ∧
    Point.advance ⟨0, 2⟩ "\né\r".toList = ⟨1, 3⟩ ∧ (ofText t).point 6 = Text.endPoint (Text.takeBytes 6 t) := by
  have hx : Text.IsBoundary "a\r\né\rb".toList 2 := by decide +kernel
  have hy : Text.IsBoundary "a\r\né\rb".toList 6 := by decide +kernel
  obtain ⟨hcarried,hbeginning,_⟩ := advance_point_slice "a\r\né\rb".toList
  exact ⟨hx,hy,by decide +kernel,by decide +kernel,hcarried 2 6 hx hy (by decide),by decide +kernel,
    (hbeginning 6 hy).2⟩

end LineTable

end SyntaxServer
