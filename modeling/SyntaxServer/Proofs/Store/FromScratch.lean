import SyntaxServer.Proofs.Store.Run
import SyntaxServer.Proofs.Store.Sample

/-! # Documents as if opened once

Text, tree and line table of a document are written in several places. In every store that a run leads to
they belong together: the tree is the one the engine gives for the text alone and the table is that of the
text, so nothing of the way there can be seen in an answer.
-/
namespace SyntaxServer

namespace Document

/-- The tree and the line table of a document are those of its text, made without a hint. -/
structure IsFresh (engine : Engine) (d : Document) : Prop where
  tree_eq : engine.parse? d.language d.text none = some d.tree
  lines_eq : d.lines = LineTable.ofText d.text

theorem isFresh_ofTree {engine : Engine} (hintFree : engine.HintFree) {language : Language}
    {text : Text} {hint : Option Hint} {tree : Tree}
    (h : engine.parse? language text hint = some tree) (version : Int) :
    IsFresh engine (.ofTree language text tree version) :=
  ⟨(hintFree language text hint).symm.trans h,rfl⟩

theorem IsFresh.eq_ofTree {engine : Engine} {d : Document} (h : d.IsFresh engine) :
    d = .ofTree d.language d.text d.tree d.version := by
  rw [Document.ofTree, ← h.lines_eq]

end Document

namespace Store

/-- Every operation writes text, tree and table of one revision. -/
theorem Outcome.each_isFresh {engine : Engine} (hintFree : engine.HintFree) {s s' : Store} {op : Operation}
    (hs : s.Each (·.IsFresh engine)) (h : Outcome engine s op s') : s'.Each (·.IsFresh engine) := by
  cases h with
  | opened parsed => exact hs.insert (Document.isFresh_ofTree hintFree parsed _)
  | revised _ _ _ parsed => exact hs.insert (Document.isFresh_ofTree hintFree parsed _)
  | closed => exact hs.erase _

theorem run_each_isFresh {engine : Engine} (hintFree : engine.HintFree) (ops : List Operation) :
    (run engine {} ops).Each (·.IsFresh engine) :=
  run_induction .empty (Outcome.each_isFresh hintFree) ops

/-- Every question about a document is answered alike in two stores. -/
structure SameAnswers (uri : Uri) (s t : Store) : Prop where
  innermost : ∀ p, (s.get uri).map (·.innermost? p) = (t.get uri).map (·.innermost? p)
  pointAt : ∀ p, (s.get uri).map (·.pointAt? p) = (t.get uri).map (·.pointAt? p)
  spanBetween : ∀ p q, (s.get uri).map (·.spanBetween p q) = (t.get uri).map (·.spanBetween p q)
  folds : (s.get uri).map (·.folds) = (t.get uri).map (·.folds)
  diagnostics : (s.get uri).map (·.diagnostics) = (t.get uri).map (·.diagnostics)

/-- After every run from the empty store, an open document is its text parsed and indexed from scratch, and
every question about it is answered as in a store in which it was opened once. -/
theorem run_answers_from_scratch {engine : Engine} (hintFree : engine.HintFree)
    (ops : List Operation) {uri : Uri} {d : Document}
    (found : (run engine {} ops).find? uri = some d) :
    engine.parse? d.language d.text none = some d.tree ∧
    d.lines = LineTable.ofText d.text ∧
    ∃ once, openDocument {} uri engine d.language d.text d.version = .ok once ∧
      SameAnswers uri (run engine {} ops) once := by
  have hf := run_each_isFresh hintFree ops uri d found
  have hopen : openDocument {} uri engine d.language d.text d.version =
      .ok (insert {} uri d) := by
    rw [← toOption_eq_some_iff]
    simp [openDocument, hf.tree_eq, ← hf.eq_ofTree]
  have hget : (run engine {} ops).get uri = (insert {} uri d).get uri := by
    simp only [get, find?_insert_self, found]
  refine ⟨hf.tree_eq,hf.lines_eq,_,hopen,?_⟩
  constructor <;> intros <;> rw [hget]

/-- A run with all operations, of which the fourth fails. -/
def mixedRun : List Operation :=
  let uri := Uri.untitled ['a']
  [.openDocument uri .json "tru".toList (-3),
    .update uri [⟨some ⟨⟨0, 2⟩, ⟨0, 2⟩⟩, "\n".toList⟩] (-2),
    .update uri [⟨some ⟨⟨0, 2⟩, ⟨0, 3⟩⟩, "😀".toList⟩] 1,
    .update uri [⟨some ⟨⟨9, 0⟩, ⟨9, 0⟩⟩, []⟩] 2,
    .edit uri ⟨8, 8, 9, ⟨1, 1⟩, ⟨1, 1⟩, ⟨2, 0⟩⟩ "tr😀\nu\n".toList 4,
    .openDocument (.untitled ['b']) .json [] 1,
    .replace (.untitled ['b']) " ".toList 2,
    .close (.untitled ['b']),
    .update uri [⟨some ⟨⟨0, 4⟩, ⟨0, 4⟩⟩, " ".toList⟩, ⟨some ⟨⟨1, 1⟩, ⟨1, 2⟩⟩, "é".toList⟩] 9]

def mixedRunDocument : Document :=
  .ofTree .json "tr😀 \nué\n".toList (Engine.tokenlessTree "tr😀 \nué\n".toList) 9

theorem mixedRun_answers_from_scratch :
    Engine.tokenless.HintFree ∧
    (run .tokenless {} mixedRun).find? (.untitled ['a']) = some mixedRunDocument ∧
    ∃ once, openDocument {} (.untitled ['a']) .tokenless .json "tr😀 \nué\n".toList 9 = .ok once ∧
      SameAnswers (.untitled ['a']) (run .tokenless {} mixedRun) once :=
  ⟨Engine.tokenless_hintFree,rfl,
    (run_answers_from_scratch Engine.tokenless_hintFree mixedRun (d := mixedRunDocument) rfl).2.2⟩

end Store

end SyntaxServer
