import SyntaxServer.Proofs.Session.Documents
import SyntaxServer.Proofs.Store.Refusal
import SyntaxServer.Proofs.Syntax.Innermost

/-! # Hovering

A client asks what stands at a position and is answered with a node and its span. The position is taken to a point,
the node is found by points, and its span is given in positions again; the span still holds the place that was asked
for.
-/
namespace SyntaxServer

theorem Document.le_nodeSpan {d : Document} (hd : d.IsIndexed) (hsize : Text.bytes d.text < UInt32.size) {n : Node}
    (hstart : d.text.HasPoint n.start) (hstop : d.text.HasPoint n.stop) {p : Point} (hp : d.text.HasPoint p)
    (hcovers : n.covers p) :
    (d.nodeSpan n).start ≤ d.lines.position d.text p ∧ d.lines.position d.text p ≤ (d.nodeSpan n).stop := by
  obtain ⟨hle,hge⟩ := Node.covers_iff.1 hcovers
  rw [nodeSpan, spanBetween, LineTable.span, hd]
  exact ⟨LineTable.position_le_position hsize hstart hp hle,LineTable.position_le_position hsize hp hstop hge⟩

namespace Session

variable {s : Session} {uri : Uri} {d : Document}

theorem hover_eq (h : s.store.find? uri = some d) (p : Position) :
    s.hover ⟨uri,p⟩ = .ok ((d.pointAt? p).bind fun point =>
      (d.innermost? point).map fun found => ⟨Hover.text found,d.nodeSpan found.node⟩) := by
  rw [hover, Store.get_eq_ok_iff.2 h, ok_bind]
  cases d.pointAt? p with
  | none => rfl
  | some point => cases hfound : d.innermost? point <;> simp [hfound, pure, Except.pure]

variable [Codec] {engine : Engine}

/-- A client asks in any state of a session what stands at a position of an open document. There is no answer exactly
when the line does not exist or its tree does not reach the place, and else the answer is the innermost node there,
whose span holds the place that the position stands for. -/
theorem hover_answers_place {ms : List Message} (h : (run engine {} ms).1.store.find? uri = some d)
    (hsize : Text.bytes d.text < UInt32.size) (hwell : d.tree.WellFormed) (hlies : d.tree.LiesOn d.text)
    (p : Position) :
    ∃ answer, (run engine {} ms).1.hover ⟨uri,p⟩ = .ok answer ∧
      (answer = none ↔ d.lines.lineCount ≤ p.line ∨
        ∃ point, d.pointAt? p = some point ∧ ¬ (d.tree.root.start ≤ point ∧ point ≤ d.tree.root.stop)) ∧
      ∀ hover, answer = some hover → ∃ point found o q,
        d.pointAt? p = some point ∧ d.innermost? point = some found ∧ hover.span = d.nodeSpan found.node ∧
        d.text.IsOffsetOf p o ∧ q = ⟨p.line,d.text.unitsOnLine p.line o⟩ ∧ d.lines.normalize? d.text p = some q ∧
        hover.span.start ≤ q ∧ q ≤ hover.span.stop := by
  have hd : d.IsIndexed := isIndexed_of_find? h
  have hpointAt : d.pointAt? p = (LineTable.ofText d.text).pointAt? d.text p := by rw [Document.pointAt?, hd]
  have hline : d.pointAt? p = none ↔ d.lines.lineCount ≤ p.line := by
    rw [hpointAt, hd]
    exact LineTable.pointAt?_eq_none_iff
  refine ⟨_,hover_eq h p,?_,?_⟩
  · rw [← hline]
    cases d.pointAt? p with
    | none => simp
    | some point => simp [Document.innermost?, Tree.innermost?_eq_none_iff]
  · intro hover hhover
    obtain ⟨point,hpoint,hhover⟩ := Option.bind_eq_some_iff.1 hhover
    obtain ⟨found,hfound,rfl⟩ := Option.map_eq_some_iff.1 hhover
    obtain ⟨a,s,rfl,hinner⟩ := hwell.isInnermost_of_innermost? hfound
    obtain ⟨hstart,hstop⟩ := hlies s.root (Tree.root_mem_nodes hinner.subtree_eq)
    obtain ⟨o,_,rfl,hon,hoffset⟩ := LineTable.place_of_pointAt? (hpointAt ▸ hpoint)
    have hposition : d.lines.position d.text ((LineTable.ofText d.text).point o) =
        ⟨p.line,d.text.unitsOnLine p.line o⟩ := by
      rw [hd]
      exact LineTable.position_of_onLine hsize hon
    have hnormal : d.lines.normalize? d.text p = some ⟨p.line,d.text.unitsOnLine p.line o⟩ := by
      rw [← hposition, LineTable.normalize?]
      exact congrArg (Option.map (d.lines.position d.text)) hpoint
    have hspan := Document.le_nodeSpan hd hsize hstart hstop ⟨o,hon.1,rfl⟩ hinner.covers
    rw [hposition] at hspan
    exact ⟨_,_,o,_,hpoint,hfound,rfl,hoffset,rfl,hnormal,hspan⟩

end Session

namespace Hovering

/-- A client opens a document whose third line starts in the middle of its second row. -/
def messages : List Message :=
  [.request (.number 1) "initialize" (.object [("capabilities", .object []), ("rootUri", .string "untitled:w")]),
    .notification "textDocument/didOpen" (.object [("textDocument", .object [("uri", .string "untitled:a"),
      ("languageId", .string "json"), ("version", .int 1), ("text", .string "é\r\n\r😀b")])])]

def document : Document :=
  .ofTree .json LineTable.mixedEndings (Engine.tokenlessTree LineTable.mixedEndings) 1

end Hovering

namespace Session

attribute [local instance] Codec.sections

/-- Asked for a place inside a surrogate pair, hovering answers for the place behind it. -/
theorem hover_answers_place_insidePair :
    let d := Hovering.document
    let s := (run .tokenless {} Hovering.messages).1
    s.store.find? (.untitled ['a']) = some d ∧ d.tree.WellFormed ∧ d.tree.LiesOn d.text ∧
    d.pointAt? ⟨2,1⟩ = some ⟨1,5⟩ ∧
    ∃ hover point found o q, s.hover ⟨.untitled ['a'],⟨2,1⟩⟩ = .ok (some hover) ∧
      hover.span = ⟨⟨0,0⟩,⟨2,3⟩⟩ ∧
      d.pointAt? ⟨2,1⟩ = some point ∧ d.innermost? point = some found ∧ hover.span = d.nodeSpan found.node ∧
      d.text.IsOffsetOf ⟨2,1⟩ o ∧ q = ⟨2,d.text.unitsOnLine 2 o⟩ ∧ d.lines.normalize? d.text ⟨2,1⟩ = some q ∧
      hover.span.start ≤ q ∧ q ≤ hover.span.stop := by
  have hfind : (run .tokenless {} Hovering.messages).1.store.find? (.untitled ['a']) = some Hovering.document := rfl
  have hwell : Hovering.document.tree.WellFormed := by decide +kernel
  have hlies : Hovering.document.tree.LiesOn Hovering.document.text := by decide +kernel
  have hpoint : Hovering.document.pointAt? ⟨2,1⟩ = some ⟨1,5⟩ := by decide +kernel
  have hcomputed : ((run .tokenless {} Hovering.messages).1.hover ⟨.untitled ['a'],⟨2,1⟩⟩).toOption.join.map (·.span) =
      some ⟨⟨0,0⟩,⟨2,3⟩⟩ := by
    decide +kernel
  obtain ⟨answer,hanswer,_,hsome⟩ := hover_answers_place hfind (by decide +kernel) hwell hlies ⟨2,1⟩
  rw [hanswer] at hcomputed
  obtain ⟨hover,rfl,hspan⟩ := Option.map_eq_some_iff.1 hcomputed
  obtain ⟨point,found,o,q,h⟩ := hsome hover rfl
  exact ⟨hfind,hwell,hlies,hpoint,hover,point,found,o,q,hanswer,hspan,h⟩

end Session

end SyntaxServer
