import SyntaxServer.Proofs.Text.Change
import SyntaxServer.Proofs.Text.Utf16

/-! # The editor's copy of a document

An editor holds a document as UTF-16 units and knows nothing of bytes or line tables: a position is an index
into the units, and a change puts units in the place of others. As long as no position lies inside a
surrogate pair, its changes are those of the text.
-/
namespace SyntaxServer

structure Update where
  version : Int
  changes : List Change
deriving DecidableEq, Repr

namespace Editor

def lines (doc : List UInt16) : List (Line UInt16) := Line.split 13 10 doc

def lineStart (doc : List UInt16) (n : Nat) : Nat := (Line.before (lines doc) n).length

/-- The index of a position, which has to be on a line that exists. A column behind the end of the line
means its end. -/
def index? (doc : List UInt16) (p : Position) : Option Nat :=
  (lines doc)[p.line]?.map fun l => lineStart doc p.line + min p.character l.content.length

def change? (doc : List UInt16) (c : Change) : Option (List UInt16) :=
  match c.span with
  | none => some (Text.utf16 c.text)
  | some span => do
    let start ← index? doc span.start
    let stop ← index? doc span.stop
    if stop < start then none else some (doc.take start ++ Text.utf16 c.text ++ doc.drop stop)

def changeAll? (doc : List UInt16) (changes : List Change) : Option (List UInt16) :=
  changes.foldlM change? doc

/-- The position is not one between the two halves of a surrogate pair. -/
def clear (doc : List UInt16) (p : Position) : Bool := (index? doc p).all (!Text.insidePair doc ·)

def clearAll (doc : List UInt16) : List Change → Bool
  | [] => true
  | c :: cs =>
    c.span.all (fun span => clear doc span.start && clear doc span.stop) &&
      (change? doc c).all (clearAll · cs)

structure Buffer where
  units : List UInt16
  version : Int
deriving DecidableEq, Repr

namespace Buffer

def accept? (b : Buffer) (u : Update) : Option Buffer :=
  (changeAll? b.units u.changes).map fun units => ⟨units, u.version⟩

/-- The copy after a notification. One with a change that cannot be made leaves it as it was. -/
def receive (b : Buffer) (u : Update) : Buffer := (b.accept? u).getD b

def history (b : Buffer) : List Update → List (Bool × Buffer)
  | [] => []
  | u :: us => ((b.accept? u).isSome, b.receive u) :: history (b.receive u) us

/-- A run in which every notification is newer than the copy and no position lies inside a pair. -/
def regular (b : Buffer) : List Update → Bool
  | [] => true
  | u :: us => b.version < u.version && clearAll b.units u.changes && regular (b.receive u) us

end Buffer

theorem index?_utf16 {t : Text} {p : Position} (h : clear (Text.utf16 t) p) :
    index? (Text.utf16 t) p = (t.upTo? p).map Text.units := by
  have hi : index? (Text.utf16 t) p = t.lines[p.line]?.map fun l =>
      Text.units (Line.before t.lines p.line) + min p.character (Text.units l.content) := by
    simp only [index?, lineStart, lines, Line.split_utf16, List.getElem?_map, Option.map_map,
      Line.before_map_utf16, Text.length_utf16]
    congr 1
    funext l
    simp only [Function.comp_apply, Line.utf16, Text.length_utf16]
  rw [clear, hi] at h
  rw [hi, Text.upTo?]
  cases hl : t.lines[p.line]? with
  | none => rfl
  | some l =>
    obtain ⟨r,hr⟩ := Text.before_append_content_isPrefix hl
    have hu : ¬ Text.insidePair (Text.utf16 l.content) p.character := by
      intro hin
      have hlt := Text.lt_length_of_insidePair hin
      have hs := Text.insidePair_append hin (Text.utf16 (Line.before t.lines p.line)) (Text.utf16 r)
      rw [Text.length_utf16] at hlt hs
      rw [← Text.utf16_append, ← Text.utf16_append, hr] at hs
      simp [hl, Nat.min_eq_left (Nat.le_of_lt hlt), hs] at h
    simp [Text.units_takeUnits hu]

theorem change?_utf16 {t : Text} {c : Change}
    (h : c.span.all fun span => clear (Text.utf16 t) span.start && clear (Text.utf16 t) span.stop) :
    change? (Text.utf16 t) c = (t.change? c).map Text.utf16 := by
  obtain ⟨span,r⟩ := c
  cases span with
  | none => rfl
  | some span =>
    simp only [Option.all_some, Bool.and_eq_true] at h
    simp only [change?, Text.change?, index?_utf16 h.1, index?_utf16 h.2]
    cases ha : t.upTo? span.start with
    | none => rfl
    | some a =>
      cases hb : t.upTo? span.stop with
      | none => rfl
      | some b =>
        have hpa := Text.upTo?_isPrefix ha
        have hpb := Text.upTo?_isPrefix hb
        have hlt := Text.bytes_lt_iff_units_lt hpb hpa
        have htake : (Text.utf16 t).take (Text.units a) = Text.utf16 a := by
          obtain ⟨u,rfl⟩ := hpa
          rw [Text.utf16_append, ← Text.length_utf16 a, List.take_left]
        have hdrop : (Text.utf16 t).drop (Text.units b) = Text.utf16 (t.drop b.length) := by
          obtain ⟨u,rfl⟩ := hpb
          rw [Text.utf16_append, ← Text.length_utf16 b, List.drop_left, List.drop_left]
        simp only [Option.map_some, Option.bind_eq_bind, Option.bind_some, htake, hdrop]
        by_cases hbytes : Text.bytes b < Text.bytes a
        · rw [if_pos hbytes, if_pos (hlt.mp hbytes)]
          rfl
        · rw [if_neg hbytes, if_neg (fun h => hbytes (hlt.mpr h))]
          simp

theorem changeAll?_utf16 {t : Text} {cs : List Change} (h : clearAll (Text.utf16 t) cs) :
    changeAll? (Text.utf16 t) cs = (t.changeAll? cs).map Text.utf16 := by
  induction cs generalizing t with
  | nil => rfl
  | cons c cs ih =>
    simp only [clearAll, Bool.and_eq_true] at h
    have hc := change?_utf16 h.1
    have hrest := h.2
    rw [hc] at hrest
    simp only [changeAll?, Text.changeAll?, List.foldlM_cons, hc]
    cases ht : t.change? c with
    | none => rfl
    | some t' =>
      simp only [ht, Option.map_some, Option.all_some] at hrest
      exact ih hrest

end Editor

end SyntaxServer
