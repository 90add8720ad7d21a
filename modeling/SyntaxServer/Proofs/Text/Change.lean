import SyntaxServer.Text.Edit
import SyntaxServer.Proofs.Text.Lines

/-! # Changes of a text

A change replaces what stands between two beginnings of a text. The edit of a span, counted in bytes,
makes this change, fails exactly when there is none, and always fits the text before and the text after it.
-/
namespace SyntaxServer

namespace Text

/-- The text after a change, if the lines of its span exist and it does not end before it starts. -/
def change? (t : Text) (c : Change) : Option Text :=
  match c.span with
  | none => some c.text
  | some span => do
    let a ← t.upTo? span.start
    let b ← t.upTo? span.stop
    if bytes b < bytes a then none else some (a ++ c.text ++ t.drop b.length)

def changeAll? (t : Text) (changes : List Change) : Option Text := changes.foldlM change? t

end Text

namespace Edit

theorem ofSpan_eq_ok {t : Text} {span : Span} {r : Text} {e : Edit}
    (h : ofSpan t span r = .ok e) :
    ∃ a b, t.upTo? span.start = some a ∧ t.upTo? span.stop = some b ∧
      Text.bytes a ≤ Text.bytes b ∧ e.startByte = Text.bytes a ∧ e.oldEndByte = Text.bytes b ∧
      e.newEndByte = Text.bytes a + Text.bytes r := by
  simp only [ofSpan, LineTable.offset?_ofText] at h
  cases ha : t.upTo? span.start with
  | none => simp [ha] at h
  | some a =>
    cases hb : t.upTo? span.stop with
    | none => simp [ha, hb] at h
    | some b =>
      simp only [ha, hb, Option.map_some] at h
      split at h
      · cases h
      · next hle =>
        cases h
        exact ⟨a,b,rfl,rfl,Nat.le_of_not_lt hle,rfl,rfl,rfl⟩

theorem apply_eq_of_isPrefix {e : Edit} {t a b : Text} (ha : a <+: t) (hb : b <+: t)
    (hstart : e.startByte = Text.bytes a) (hstop : e.oldEndByte = Text.bytes b) (r : Text) :
    e.apply t r = a ++ r ++ t.drop b.length := by
  rw [apply, Text.splice, hstart, hstop, Text.takeBytes_of_isPrefix ha, Text.dropBytes_of_isPrefix hb]

/-- The edit of a span makes the change, and there is an edit exactly when there is a change. -/
theorem apply_ofSpan (t : Text) (span : Span) (r : Text) :
    (ofSpan t span r).toOption.map (·.apply t r) = t.change? ⟨some span, r⟩ := by
  cases he : ofSpan t span r with
  | ok e =>
    obtain ⟨a,b,ha,hb,hle,hstart,hstop,_⟩ := ofSpan_eq_ok he
    have happ := apply_eq_of_isPrefix (Text.upTo?_isPrefix ha) (Text.upTo?_isPrefix hb) hstart hstop r
    simp [Except.toOption, Text.change?, ha, hb, Nat.not_lt.mpr hle, happ]
  | error f =>
    simp only [ofSpan, LineTable.offset?_ofText] at he
    cases ha : t.upTo? span.start with
    | none => simp [Except.toOption, Text.change?, ha]
    | some a =>
      cases hb : t.upTo? span.stop with
      | none => simp [Except.toOption, Text.change?, ha, hb]
      | some b =>
        simp only [ha, hb, Option.map_some] at he
        split at he
        · next hlt => simp [Except.toOption, Text.change?, ha, hb, hlt]
        · cases he

theorem checkFit_ofSpan {t : Text} {span : Span} {r : Text} {e : Edit}
    (h : ofSpan t span r = .ok e) : e.checkFit t (e.apply t r) = .ok () := by
  obtain ⟨a,b,ha,hb,hle,hstart,hstop,hnew⟩ := ofSpan_eq_ok h
  have hpa := Text.upTo?_isPrefix ha
  have hpb := Text.upTo?_isPrefix hb
  have hold : Text.bytes b ≤ Text.bytes t := by
    obtain ⟨u,rfl⟩ := hpb
    simp
  have hfit : Text.bytes a + Text.bytes r ≤ Text.bytes (e.apply t r) := by
    rw [apply_eq_of_isPrefix hpa hpb hstart hstop]
    simp only [Text.bytes_append]
    omega
  rw [checkFit, hstart, hstop, hnew, if_neg (by omega), if_neg (by omega)]

end Edit

end SyntaxServer
