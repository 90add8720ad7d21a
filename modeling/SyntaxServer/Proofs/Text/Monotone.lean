import SyntaxServer.Proofs.Text.Change
import SyntaxServer.Proofs.Text.Order

/-! # Spans in order are edits

A column behind the end of a line is taken back to the end, and one inside a character is moved on to its end. Neither
makes two positions change places, and a later line starts behind all that stands on an earlier one. So a span whose
ends are in order is refused for a missing line alone.
-/
namespace SyntaxServer

theorem Text.takeUnits_isPrefix_takeUnits {m n : Nat} (h : m ≤ n) (t : Text) : takeUnits m t <+: takeUnits n t := by
  rcases le_units_takeUnits n t with hle | hall
  · exact takeUnits_isPrefix_of_le (takeUnits_isPrefix n t) (h.trans hle)
  · rw [hall]
    exact takeUnits_isPrefix m t

namespace LineTable

variable {t : Text} {p q : Position} {l : Line Char}

theorem getElem?_of_lt_lineCount {n : Nat} (h : n < (ofText t).lineCount) : ∃ l, t.lines[n]? = some l := by
  rw [lineCount_eq] at h
  exact ⟨_,List.getElem?_eq_getElem h⟩

theorem offset?_of_line (hl : t.lines[p.line]? = some l) : (ofText t).offset? t p =
    some (Text.bytes (Line.before t.lines p.line ++ Text.takeUnits p.character l.content)) := by
  rw [offset?_ofText, Text.upTo?, hl, Option.map_some, Option.map_some]

theorem offset?_eq_none (h : (ofText t).lineCount ≤ p.line) : (ofText t).offset? t p = none := by
  have hnone := pointAt?_eq_none_iff.2 h
  rwa [pointAt?, Option.map_eq_none_iff] at hnone

/-- Positions in order have their offsets in order, and on two lines the offsets differ. -/
theorem offset?_mono (h : p ≤ q) (hq : q.line < (ofText t).lineCount) :
    ∃ x y, (ofText t).offset? t p = some x ∧ (ofText t).offset? t q = some y ∧ x ≤ y ∧ (p.line ≠ q.line → x < y) := by
  rcases p with ⟨m,c⟩
  rcases q with ⟨n,d⟩
  change n < _ at hq
  rcases Position.le_def.1 h with hlt | ⟨rfl,hle⟩
  · change m < n at hlt
    obtain ⟨k,hk⟩ := getElem?_of_lt_lineCount (hlt.trans hq)
    obtain ⟨l,hl⟩ := getElem?_of_lt_lineCount hq
    -- whatever is taken of the earlier line ends before the later line starts
    have hbehind := (Text.endsOn_of_content hk (Text.takeUnits_isPrefix c k.content)).bytes_lt_before hlt
      (List.getElem?_eq_some_iff.1 hl).1
    have hxy : Text.bytes (Line.before t.lines m ++ Text.takeUnits c k.content) <
        Text.bytes (Line.before t.lines n ++ Text.takeUnits d l.content) := by
      rw [Text.bytes_append (Line.before t.lines n)]
      omega
    exact ⟨_,_,offset?_of_line hk,offset?_of_line hl,hxy.le,fun _ => hxy⟩
  · obtain ⟨l,hl⟩ := getElem?_of_lt_lineCount hq
    have hlonger := (List.prefix_append_right_inj (Line.before t.lines m)).2
      (Text.takeUnits_isPrefix_takeUnits hle l.content)
    exact ⟨_,_,offset?_of_line hl,offset?_of_line hl,Text.bytes_le_of_isPrefix hlonger,fun hne => absurd rfl hne⟩

end LineTable

theorem Edit.exists_ofSpan_iff {t r : Text} {span : Span} : (∃ e, ofSpan t span r = .ok e) ↔
    ∃ x y, (LineTable.ofText t).offset? t span.start = some x ∧ (LineTable.ofText t).offset? t span.stop = some y ∧
      x ≤ y := by
  constructor
  · rintro ⟨e,he⟩
    obtain ⟨a,b,ha,hb,hle,_⟩ := ofSpan_eq_ok he
    refine ⟨_,_,?_,?_,hle⟩
    · rw [LineTable.offset?_ofText, ha, Option.map_some]
    · rw [LineTable.offset?_ofText, hb, Option.map_some]
  · rintro ⟨x,y,hx,hy,hle⟩
    simp only [ofSpan, hx, hy, if_neg (Nat.not_lt.2 hle)]
    exact ⟨_,rfl⟩

namespace LineTable

variable {t : Text}

/-- Order is kept on the way from positions to offsets and from offsets to points and positions, so that a span in
order is an edit if its last line exists. -/
theorem conversions_keep_order (hsize : Text.bytes t < UInt32.size) :
    (∀ p q : Position, p ≤ q → p.line < (ofText t).lineCount → q.line < (ofText t).lineCount →
      ∃ x y, (ofText t).offset? t p = some x ∧ (ofText t).offset? t q = some y ∧ x ≤ y ∧ (p.line ≠ q.line → x < y)) ∧
    (∀ x y, Text.IsBoundary t x → Text.IsBoundary t y → x < y → (ofText t).point x < (ofText t).point y ∧
      (ofText t).position t ((ofText t).point x) < (ofText t).position t ((ofText t).point y)) ∧
    ∀ (span : Span) (r : Text), span.start ≤ span.stop →
      ((∃ e, Edit.ofSpan t span r = .ok e) ↔ span.stop.line < (ofText t).lineCount) := by
  refine ⟨?_,?_,?_⟩
  · intro p q h _ hq
    exact offset?_mono h hq
  · intro x y hx hy h
    exact ⟨point_lt_point hx hy h,position_lt_position hsize hx hy h⟩
  · intro span r h
    rw [Edit.exists_ofSpan_iff]
    constructor
    · rintro ⟨x,y,_,hy,_⟩
      by_contra hline
      rw [offset?_eq_none (Nat.not_lt.1 hline)] at hy
      cases hy
    · intro hstop
      obtain ⟨x,y,hx,hy,hle,_⟩ := offset?_mono h hstop
      exact ⟨x,y,hx,hy,hle⟩

/-- A column behind the end of an empty line, and on the next line one inside a surrogate pair. -/
theorem conversions_keep_order_mixedEndings :
    let t := mixedEndings
    let span : Span := ⟨⟨1,7⟩,⟨2,1⟩⟩
    Text.bytes t < UInt32.size ∧ span.start ≤ span.stop ∧ span.stop.line < (ofText t).lineCount ∧
    Text.IsBoundary t 4 ∧ Text.IsBoundary t 5 ∧
    (∃ x y, (ofText t).offset? t span.start = some x ∧ (ofText t).offset? t span.stop = some y ∧ x ≤ y ∧
      (span.start.line ≠ span.stop.line → x < y)) ∧
    ((ofText t).point 4 < (ofText t).point 5 ∧
      (ofText t).position t ((ofText t).point 4) < (ofText t).position t ((ofText t).point 5)) ∧
    ∃ e, Edit.ofSpan t span ['x'] = .ok e := by
  have hsize : Text.bytes mixedEndings < UInt32.size := by decide +kernel
  have hle : (⟨1,7⟩ : Position) ≤ ⟨2,1⟩ := by decide
  have hstart : 1 < (ofText mixedEndings).lineCount := by decide +kernel
  have hstop : 2 < (ofText mixedEndings).lineCount := by decide +kernel
  have hx : Text.IsBoundary mixedEndings 4 := by decide +kernel
  have hy : Text.IsBoundary mixedEndings 5 := by decide +kernel
  obtain ⟨hoffsets,hplaces,hedits⟩ := conversions_keep_order hsize
  exact ⟨hsize,hle,hstop,hx,hy,hoffsets _ _ hle hstart hstop,hplaces 4 5 hx hy (by decide),
    (hedits ⟨⟨1,7⟩,⟨2,1⟩⟩ ['x'] hle).2 hstop⟩

end LineTable

end SyntaxServer
