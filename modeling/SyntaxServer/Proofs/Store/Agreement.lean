import SyntaxServer.Proofs.Editor.Buffer
import SyntaxServer.Proofs.Store.Run
import SyntaxServer.Proofs.Store.Sample

/-! # Editor and store agree

An editor and the store are told of the same changes. The store counts bytes and looks lines up in a table,
the editor counts UTF-16 units; still, after every notification of every run they hold the same text, and
the store refuses exactly the notifications that the editor cannot follow.
-/
namespace SyntaxServer

namespace Editor.Buffer

def ofDocument (d : Document) : Buffer := ⟨Text.utf16 d.text, d.version⟩

theorem accept?_ofDocument {d : Document} {u : Update}
    (h : clearAll (Text.utf16 d.text) u.changes) :
    (ofDocument d).accept? u =
      (d.text.changeAll? u.changes).map fun text => ⟨Text.utf16 text, u.version⟩ := by
  simp only [accept?, ofDocument, changeAll?_utf16 h, Option.map_map]
  rfl

end Editor.Buffer

namespace Store

open Editor

def history (engine : Engine) (uri : Uri) (s : Store) : List Update → List (Bool × Option Buffer)
  | [] => []
  | u :: us =>
    let op := Operation.update uri u.changes u.version
    ((s.perform? engine op).isOk, ((s.perform engine op).find? uri).map Buffer.ofDocument) ::
      history engine uri (s.perform engine op) us

variable {engine : Engine} {s : Store} {uri : Uri} {d : Document}

theorem perform_update_agrees (total : engine.Total) (found : s.find? uri = some d) {u : Update}
    (newer : d.version < u.version) (h : clearAll (Text.utf16 d.text) u.changes) :
    (s.perform? engine (.update uri u.changes u.version)).isOk =
        ((Buffer.ofDocument d).accept? u).isSome ∧
    ∃ d', (s.perform engine (.update uri u.changes u.version)).find? uri = some d' ∧
      Buffer.ofDocument d' = (Buffer.ofDocument d).receive u := by
  have ho := toOption_update s uri engine u.changes u.version
  have ht := text_draft? d u.changes
  have ha := Buffer.accept?_ofDocument h
  simp only [updated?, found, newer, Option.bind_eq_bind, Option.bind_some, ↓reduceIte] at ho
  cases hdraft : draft? d u.changes with
  | none =>
    rw [hdraft, Option.map_none] at ht
    rw [hdraft, Option.bind_none] at ho
    rw [← ht, Option.map_none] at ha
    rw [Buffer.receive, ha]
    refine ⟨?_,d,?_,rfl⟩
    · cases hu : s.update uri engine u.changes u.version <;> simp_all [perform?, Except.isOk, Except.toBool]
    · simp [perform, perform?, ho, found]
  | some draft =>
    obtain ⟨tree,htree⟩ := Option.isSome_iff_exists.mp (total d.language draft.text draft.hint)
    rw [hdraft, Option.map_some] at ht
    rw [hdraft, Option.bind_some, htree, Option.bind_some, toOption_eq_some_iff] at ho
    rw [← ht, Option.map_some] at ha
    rw [Buffer.receive, ha, perform, perform?, ho]
    exact ⟨rfl,_,find?_insert_self ..,rfl⟩

/-- Over every run of notifications that are newer than the document and cut no surrogate pair, store and
editor accept and refuse the same ones and hold the same text at the same version after each of them. -/
theorem history_eq_editor (total : engine.Total) (found : s.find? uri = some d) (us : List Update)
    (regular : (Buffer.ofDocument d).regular us) :
    s.history engine uri us = ((Buffer.ofDocument d).history us).map fun (ok, b) => (ok, some b) := by
  induction us generalizing s d with
  | nil => rfl
  | cons u us ih =>
    simp only [Buffer.regular, Bool.and_eq_true, decide_eq_true_eq] at regular
    obtain ⟨⟨newer,hclear⟩,hrest⟩ := regular
    obtain ⟨hok,d',found',hd'⟩ := perform_update_agrees total found newer hclear
    rw [← hd'] at hrest
    simp only [history, Buffer.history, List.map_cons, hok, found', Option.map_some, ← hd',
      ih found' hrest]

/-- Typing in a document with a character outside the basic plane; the third notification names a line that
does not exist. -/
def typing : List Update :=
  [⟨-2, [⟨some ⟨⟨0, 2⟩, ⟨0, 2⟩⟩, "\n".toList⟩]⟩,
    ⟨1, [⟨some ⟨⟨0, 2⟩, ⟨0, 3⟩⟩, "😀".toList⟩]⟩,
    ⟨2, [⟨some ⟨⟨0, 0⟩, ⟨0, 1⟩⟩, []⟩, ⟨some ⟨⟨9, 0⟩, ⟨9, 0⟩⟩, []⟩]⟩,
    ⟨4, [⟨some ⟨⟨1, 1⟩, ⟨1, 1⟩⟩, "\n".toList⟩]⟩,
    ⟨9, [⟨some ⟨⟨0, 4⟩, ⟨0, 4⟩⟩, " ".toList⟩, ⟨some ⟨⟨1, 1⟩, ⟨1, 2⟩⟩, "é".toList⟩]⟩]

theorem history_typing_eq_editor :
    let d := Document.ofTree .json "tru".toList (Engine.tokenlessTree "tru".toList) (-3)
    let s := insert {} (.untitled ['a']) d
    Engine.tokenless.Total ∧ s.find? (.untitled ['a']) = some d ∧
    (Buffer.ofDocument d).regular typing ∧
    ((Buffer.ofDocument d).history typing).map Prod.fst = [true, true, false, true, true] ∧
    s.history .tokenless (.untitled ['a']) typing =
      ((Buffer.ofDocument d).history typing).map fun (ok, b) => (ok, some b) :=
  ⟨Engine.tokenless_total,rfl,by decide,by decide,
    history_eq_editor Engine.tokenless_total rfl typing (by decide)⟩

end Store

end SyntaxServer
