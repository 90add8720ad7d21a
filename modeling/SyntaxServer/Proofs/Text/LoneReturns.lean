import Mathlib.Data.List.Nodup
import SyntaxServer.Proofs.Text.Order

/-! # Carriage returns that stand alone

A carriage return that stands alone ends a line and no row, and nothing else sets lines and rows apart. So the line of a
place is its row and the number of the carriage returns alone up to it.
-/
namespace SyntaxServer

namespace LineTable

/-- A line ends behind `c` when `rest` follows it, and no row. -/
def endsAlone (c : Char) (rest : Text) : Bool := c == '\r' && rest.head? != some '\n'

end LineTable

/-- The offsets just behind the carriage returns of a text that stand alone. -/
def Text.loneReturns (t : Text) : List Nat := LineTable.startsAfter LineTable.endsAlone 0 t

namespace LineTable

section Starts

variable {xs : List Nat} {o : Nat}

theorem length_takeWhile_le (h : xs.Pairwise (· < ·)) (o : Nat) : (xs.takeWhile (· ≤ o)).length = xs.countP (· ≤ o) := by
  induction xs with
  | nil => rfl
  | cons x xs ih =>
    obtain ⟨hx,hxs⟩ := List.pairwise_cons.1 h
    by_cases hle : x ≤ o
    · have hcount : (x :: xs).countP (· ≤ o) = xs.countP (· ≤ o) + 1 := List.countP_cons_of_pos (by simpa using hle)
      rw [hcount, List.takeWhile_cons_of_pos (by simpa using hle), List.length_cons, ih hxs]
    · have hnone : (x :: xs).countP (· ≤ o) = 0 := by
        rw [List.countP_eq_zero]
        intro y hy
        have hxy : x ≤ y := by
          rcases List.mem_cons.1 hy with rfl | hy
          · exact le_rfl
          · exact (hx y hy).le
        simp only [decide_eq_true_eq]
        omega
      rw [hnone, List.takeWhile_cons_of_neg (by simpa using hle), List.length_nil]

theorem lastStart_cons_zero (h : xs.Pairwise (· < ·)) (o : Nat) : lastStart (0 :: xs) o = xs.countP (· ≤ o) := by
  rw [lastStart, List.takeWhile_cons_of_pos (by simp), List.length_cons, Nat.add_sub_cancel, length_takeWhile_le h]

theorem countP_le_eq (xs : List Nat) (o : Nat) : xs.countP (· ≤ o) = xs.countP (· < o) + xs.count o := by
  induction xs with
  | nil => rfl
  | cons x xs ih =>
    simp only [List.countP_cons, List.count_cons, ih, decide_eq_true_eq, beq_iff_eq]
    split <;> split <;> split <;> omega

theorem eq_getD_lastStart_iff (h : (0 :: xs).Pairwise (· < ·)) :
    o = (0 :: xs).getD (lastStart (0 :: xs) o) 0 ↔ o ∈ 0 :: xs := by
  constructor
  · intro hstart
    have hfirst : (0 :: xs)[0]? = some 0 := rfl
    obtain ⟨x,hx,_⟩ := exists_getElem?_lastStart hfirst o
    rw [hstart, List.getD_eq_getElem?_getD, hx]
    exact List.mem_of_getElem? hx
  · intro ho
    obtain ⟨n,hn,rfl⟩ := List.mem_iff_getElem.1 ho
    have hsorted := List.pairwise_iff_getElem.1 h
    have hlast : lastStart (0 :: xs) (0 :: xs)[n] = n := by
      apply lastStart_eq hn
      · intro k x hk hx
        obtain ⟨hlt,rfl⟩ := List.getElem?_eq_some_iff.1 hx
        rcases hk.lt_or_eq with hk | rfl
        · exact (hsorted k n hlt hn hk).le
        · exact le_rfl
      · intro x hx
        obtain ⟨hlt,rfl⟩ := List.getElem?_eq_some_iff.1 hx
        exact hsorted n (n + 1) hn hlt (Nat.lt_succ_self n)
    rw [hlast, List.getD_eq_getElem?_getD, List.getElem?_eq_getElem hn]
    rfl

theorem lastStart_reached (h : (0 :: xs).Pairwise (· < ·)) (o : Nat) :
    (if o = (0 :: xs).getD (lastStart (0 :: xs) o) 0 then lastStart (0 :: xs) o - 1 else lastStart (0 :: xs) o) =
      xs.countP (· < o) := by
  obtain ⟨hpos,hxs⟩ := List.pairwise_cons.1 h
  have hlast : lastStart (0 :: xs) o = xs.countP (· < o) + xs.count o := by
    rw [lastStart_cons_zero hxs, countP_le_eq]
  split
  · next hstart =>
    rw [hlast]
    rcases List.mem_cons.1 ((eq_getD_lastStart_iff h).1 hstart) with rfl | ho
    · -- all starts counted are behind the first
      have hnone : xs.count 0 = 0 := List.count_eq_zero.2 fun hzero => (hpos 0 hzero).false
      have hbefore : xs.countP (· < 0) = 0 := List.countP_eq_zero.2 fun x _ => by simp
      rw [hnone, hbefore]
    · rw [List.count_eq_one_of_mem (hxs.imp Nat.ne_of_lt) ho, Nat.add_sub_cancel]
  · next hstart =>
    have ho : o ∉ xs := fun ho => hstart ((eq_getD_lastStart_iff h).2 (List.mem_cons_of_mem _ ho))
    rw [hlast, List.count_eq_zero.2 ho, Nat.add_zero]

end Starts

/-- What starts a line starts a row or stands behind a carriage return alone, and never both. -/
theorem countP_startsAfter (p : Nat → Bool) (o : Nat) (t : Text) : (startsAfter endsLine o t).countP p =
    (startsAfter endsRow o t).countP p + (startsAfter endsAlone o t).countP p := by
  induction t generalizing o with
  | nil => rfl
  | cons c t ih =>
    have hrest := ih (o + c.utf8Size)
    rw [startsAfter, startsAfter, startsAfter]
    by_cases hfeed : c = '\n'
    · have hline : endsLine c t = true := by simp [endsLine, hfeed]
      have hrow : endsRow c t = true := by simp [endsRow, hfeed]
      have halone : ¬ endsAlone c t = true := by simp [endsAlone, hfeed]
      -- a line feed starts both, also behind a carriage return
      rw [if_pos hline, if_pos hrow, if_neg halone, List.countP_cons, List.countP_cons]
      omega
    · have hline : endsLine c t = endsAlone c t := by simp [endsLine, endsAlone, hfeed]
      have hrow : ¬ endsRow c t = true := by simp [endsRow, hfeed]
      rw [hline, if_neg hrow]
      split
      · rw [List.countP_cons, List.countP_cons]
        omega
      · exact hrest

variable {t : Text} {o : Nat}

theorem column_point_eq_zero_iff :
    ((ofText t).point o).column = 0 ↔ o = (ofText t).rows.getD (lastStart (ofText t).rows o) 0 := by
  have hfirst : (ofText t).rows[0]? = some 0 := rfl
  obtain ⟨x,hx,hle⟩ := exists_getElem?_lastStart hfirst o
  have hstart : (ofText t).rows.getD (lastStart (ofText t).rows o) 0 = x := by
    rw [List.getD_eq_getElem?_getD, hx]
    rfl
  have hcolumn : ((ofText t).point o).column = o - (ofText t).rows.getD (lastStart (ofText t).rows o) 0 := rfl
  rw [hcolumn, hstart]
  omega

variable (hsize : Text.bytes t < UInt32.size) (ho : Text.IsBoundary t o)

include hsize ho

theorem line_position_point :
    ((ofText t).position t ((ofText t).point o)).line = lastStart (ofText t).lines o := by
  obtain ⟨a,ha,rfl⟩ := Text.isBoundary_iff.1 ho
  obtain ⟨n,l,u,hu⟩ := Text.exists_endsOn ha
  rw [position_of_endsOn hsize hu, lastStart_of_endsOn hu]

theorem character_position_point_eq_zero_iff : ((ofText t).position t ((ofText t).point o)).character = 0 ↔
    o = (ofText t).lines.getD (lastStart (ofText t).lines o) 0 := by
  obtain ⟨a,ha,rfl⟩ := Text.isBoundary_iff.1 ho
  obtain ⟨n,l,u,hu⟩ := Text.exists_endsOn ha
  have hpart : 0 < Text.units u ↔ 0 < Text.bytes u := Text.units_pos_iff.trans Text.bytes_pos_iff.symm
  have hbytes : Text.bytes a = Text.bytes (Line.before t.lines n) + Text.bytes u := by
    rw [hu.eq_append, Text.bytes_append]
  rw [position_of_endsOn hsize hu, lastStart_of_endsOn hu, getD_lines_ofText hu.line]
  change Text.units u = 0 ↔ _
  omega

/-- The line of a place is its row and the number of carriage returns alone up to it. -/
theorem line_eq_row_add : ((ofText t).position t ((ofText t).point o)).line =
    ((ofText t).point o).row + t.loneReturns.countP (· ≤ o) := by
  have hline : lastStart (ofText t).lines o = (startsAfter endsLine 0 t).countP (· ≤ o) :=
    lastStart_cons_zero (pairwise_startsAfter endsLine 0 t) o
  have hrow : ((ofText t).point o).row = (startsAfter endsRow 0 t).countP (· ≤ o) :=
    lastStart_cons_zero (pairwise_startsAfter endsRow 0 t) o
  rw [line_position_point hsize ho, hline, hrow, countP_startsAfter, Text.loneReturns]

theorem row_point_lt : ((ofText t).point o).row < UInt32.size := by
  have hline := line_eq_row_add hsize ho
  obtain ⟨a,ha,rfl⟩ := Text.isBoundary_iff.1 ho
  obtain ⟨n,l,u,hu⟩ := Text.exists_endsOn ha
  have hbytes := hu.line_le_bytes
  rw [position_of_endsOn hsize hu] at hline
  change n = _ at hline
  omega

/-- The last line that reaches before a place is the last such row and the number of carriage returns alone that
something stands behind before the place. -/
theorem lastLine_eq_lastRow_add :
    (if ((ofText t).position t ((ofText t).point o)).character = 0
      then ((ofText t).position t ((ofText t).point o)).line - 1
      else ((ofText t).position t ((ofText t).point o)).line) =
    (if ((ofText t).point o).column = 0 then ((ofText t).point o).row - 1 else ((ofText t).point o).row) +
      t.loneReturns.countP (· < o) := by
  have hline := lastStart_reached (pairwise_cons_startsAfter endsLine t) o
  have hrow := lastStart_reached (pairwise_cons_startsAfter endsRow t) o
  simp only [character_position_point_eq_zero_iff hsize ho, line_position_point hsize ho, column_point_eq_zero_iff]
  exact hline.trans ((countP_startsAfter _ 0 t).trans (congrArg (· + t.loneReturns.countP (· < o)) hrow.symm))

end LineTable

end SyntaxServer
