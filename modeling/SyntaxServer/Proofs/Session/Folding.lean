import SyntaxServer.Proofs.Session.Documents
import SyntaxServer.Proofs.Store.Refusal
import SyntaxServer.Proofs.Syntax.Folds
import SyntaxServer.Proofs.Text.LoneReturns

/-! # Folding

A client is sent folds as lines, and they are the rows of the tree. The two are the same up to the first carriage return
that stands alone. From there on a fold lies before the span of its node, as many lines as there are such carriage
returns.
-/
namespace SyntaxServer

/-- The last line a span reaches into: one that ends before the first character of a line does not count it. -/
def Span.lastLine (s : Span) : Nat := if s.stop.character = 0 then s.stop.line - 1 else s.stop.line

namespace LineTable

variable {t : Text} {x y : Nat}

theorem lt_of_row_lt (hx : Text.IsBoundary t x) (hy : Text.IsBoundary t y)
    (h : ((ofText t).point x).row < ((ofText t).point y).row) : x < y := by
  by_contra hle
  rcases (Nat.not_lt.1 hle).lt_or_eq with hlt | rfl
  · have hrow := Point.row_le (point_lt_point hy hx hlt).le
    omega
  · exact Nat.lt_irrefl _ h

end LineTable

namespace Document

variable {d : Document} {f : FoldRange}

/-- A fold is that of a named node below the root. It starts and ends as many lines before the span of the node as
carriage returns stand alone up to the start of the node, and before its end. -/
theorem exists_of_mem_folds (hd : d.IsIndexed) (hsize : Text.bytes d.text < UInt32.size) (hlies : d.tree.LiesOn d.text)
    (hf : f ∈ d.folds) : ∃ n ∈ Tree.forestNodes d.tree.children, ∃ x y, n.named = true ∧ x < y ∧
      (Text.IsBoundary d.text x ∧ (LineTable.ofText d.text).point x = n.start) ∧
      (Text.IsBoundary d.text y ∧ (LineTable.ofText d.text).point y = n.stop) ∧
      (d.nodeSpan n).start.line = f.startLine + d.text.loneReturns.countP (· ≤ x) ∧
      (d.nodeSpan n).lastLine = f.endLine + d.text.loneReturns.countP (· < y) := by
  obtain ⟨n,hn,rfl,hnamed,hlt⟩ := Tree.exists_of_mem_folds hf
  obtain ⟨⟨x,hx,hstart⟩,y,hy,hstop⟩ := hlies n (Tree.mem_nodes_of_mem_forestNodes hn)
  have hspan : d.nodeSpan n = (LineTable.ofText d.text).span d.text n.start n.stop := by
    rw [nodeSpan, spanBetween, hd]
  have hxrow := LineTable.row_point_lt hsize hx
  have hyrow := LineTable.row_point_lt hsize hy
  have hxline := LineTable.line_eq_row_add hsize hx
  have hyline := LineTable.lastLine_eq_lastRow_add hsize hy
  have hxy : x < y := by
    apply LineTable.lt_of_row_lt hx hy
    rw [hstart, hstop]
    exact hlt.trans_le n.lastRow_le
  rw [hstart] at hxrow hxline
  rw [hstop] at hyrow hyline
  refine ⟨n,hn,x,y,hnamed,hxy,⟨hx,hstart⟩,⟨hy,hstop⟩,?_,?_⟩
  · rw [hspan, Node.foldRange, low32_eq hxrow]
    exact hxline
  · rw [hspan, Node.foldRange, low32_eq (n.lastRow_le.trans_lt hyrow)]
    exact hyline

end Document

namespace Session

variable {s : Session} {uri : Uri} {d : Document}

theorem folds_eq (h : s.store.find? uri = some d) : s.folds ⟨uri⟩ = .ok d.folds := by
  rw [folds, Store.get_eq_ok_iff.2 h, ok_bind]
  rfl

variable [Codec] {engine : Engine}

/-- A client asks in any state of a session for the folds of an open document. The answer counts rows: each fold is that
of a named node below the root, and it has the lines of the node's span exactly when no carriage return stands alone
before the end of the node. -/
theorem folds_count_rows {ms : List Message} (h : (run engine {} ms).1.store.find? uri = some d)
    (hsize : Text.bytes d.text < UInt32.size) (hlies : d.tree.LiesOn d.text) :
    (run engine {} ms).1.folds ⟨uri⟩ = .ok d.folds ∧
    ∀ f ∈ d.folds, ∃ n ∈ Tree.forestNodes d.tree.children, ∃ x y, n.named = true ∧
      (Text.IsBoundary d.text x ∧ (LineTable.ofText d.text).point x = n.start) ∧
      (Text.IsBoundary d.text y ∧ (LineTable.ofText d.text).point y = n.stop) ∧
      (d.nodeSpan n).start.line = f.startLine + d.text.loneReturns.countP (· ≤ x) ∧
      (d.nodeSpan n).lastLine = f.endLine + d.text.loneReturns.countP (· < y) ∧
      (f.startLine = (d.nodeSpan n).start.line ∧ f.endLine = (d.nodeSpan n).lastLine ↔
        ∀ z ∈ d.text.loneReturns, y ≤ z) := by
  refine ⟨folds_eq h,?_⟩
  intro f hf
  obtain ⟨n,hn,x,y,hnamed,hxy,hx,hy,hstart,hstop⟩ :=
    Document.exists_of_mem_folds (isIndexed_of_find? h) hsize hlies hf
  refine ⟨n,hn,x,y,hnamed,hx,hy,hstart,hstop,?_⟩
  constructor
  · rintro ⟨_,heq⟩ z hz
    have hnone : d.text.loneReturns.countP (· < y) = 0 := by omega
    simpa using List.countP_eq_zero.1 hnone z hz
  · -- the start lies before the end, so none stands up to the start either
    intro hbehind
    have hbefore : d.text.loneReturns.countP (· < y) = 0 :=
      List.countP_eq_zero.2 fun z hz => by simpa using hbehind z hz
    have hupTo : d.text.loneReturns.countP (· ≤ x) = 0 :=
      List.countP_eq_zero.2 fun z hz => by simpa using hxy.trans_le (hbehind z hz)
    omega

end Session

namespace Folding

/-- An empty list on two rows and three lines: the second line ends with a carriage return alone. -/
def tree : Tree :=
  let span := Engine.spanNode "[\n\r]".toList
  .node (span "document" 0 4) [.node (span "array" 0 4) [.node { span "[" 0 1 with named := false } [],
    .node { span "]" 3 4 with named := false } []]]

def engine : Engine := ⟨fun _ _ _ => some tree⟩

def messages : List Message :=
  [.request (.number 1) "initialize" (.object [("capabilities", .object []), ("rootUri", .string "untitled:w")]),
    .notification "textDocument/didOpen" (.object [("textDocument", .object [("uri", .string "untitled:a"),
      ("languageId", .string "json"), ("version", .int 1), ("text", .string "[\n\r]")])])]

def document : Document := .ofTree .json "[\n\r]".toList tree 1

end Folding

namespace Session

open Folding

attribute [local instance] Codec.sections

/-- The list is folded up to the second line, one line before its end. -/
theorem folds_count_rows_emptyList :
    (run engine {} messages).1.store.find? (.untitled ['a']) = some document ∧
    Text.bytes document.text < UInt32.size ∧ document.tree.LiesOn document.text ∧
    document.text.loneReturns = [3] ∧ (run engine {} messages).1.folds ⟨.untitled ['a']⟩ = .ok [⟨0,1⟩] ∧
    ∃ n ∈ Tree.forestNodes document.tree.children, ∃ x y, n.named = true ∧
      (Text.IsBoundary document.text x ∧ (LineTable.ofText document.text).point x = n.start) ∧
      (Text.IsBoundary document.text y ∧ (LineTable.ofText document.text).point y = n.stop) ∧
      (document.nodeSpan n).start.line = 0 + document.text.loneReturns.countP (· ≤ x) ∧
      (document.nodeSpan n).lastLine = 1 + document.text.loneReturns.countP (· < y) := by
  have hfind : (run engine {} messages).1.store.find? (.untitled ['a']) = some document := rfl
  have hsize : Text.bytes document.text < UInt32.size := by decide +kernel
  have hlies : document.tree.LiesOn document.text := by decide +kernel
  have hfolds : document.folds = [⟨0,1⟩] := by decide +kernel
  obtain ⟨hanswer,hlines⟩ := folds_count_rows hfind hsize hlies
  rw [hfolds] at hanswer hlines
  obtain ⟨n,hn,x,y,hnamed,hx,hy,hstart,hstop,_⟩ := hlines _ List.mem_cons_self
  exact ⟨hfind,hsize,hlies,by decide +kernel,hanswer,n,hn,x,y,hnamed,hx,hy,hstart,hstop⟩

/-- The tree is as well-formed as it can be, and no named node below its root has the lines of the fold as those of its
span. -/
theorem folds_emptyList_not_lines :
    (run engine {} messages).1.store.find? (.untitled ['a']) = some document ∧
    Text.bytes document.text < UInt32.size ∧ document.tree.WellFormed ∧ document.tree.LiesOn document.text ∧
    (run engine {} messages).1.folds ⟨.untitled ['a']⟩ = .ok [⟨0,1⟩] ∧
    ∀ n ∈ Tree.forestNodes document.tree.children, n.named = true →
      ¬ (0 = (document.nodeSpan n).start.line ∧ 1 = (document.nodeSpan n).lastLine) := by
  have hfind : (run engine {} messages).1.store.find? (.untitled ['a']) = some document := rfl
  have hfolds : document.folds = [⟨0,1⟩] := by decide +kernel
  exact ⟨hfind,by decide +kernel,by decide +kernel,by decide +kernel,hfolds ▸ folds_eq hfind,by decide +kernel⟩

end Session

end SyntaxServer
