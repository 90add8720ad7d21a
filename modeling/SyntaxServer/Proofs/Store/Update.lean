import SyntaxServer.Store.Basic
import SyntaxServer.Proofs.Result
import SyntaxServer.Proofs.Text.Change

/-! # What an update does

A lone change is prepared and applied as an edit, and several changes are collected in a draft. Both ways
succeed for the same changes and lead to the same document; only the errors they report differ. So one
statement says what an update does, and no later proof looks at the two ways again.
-/
namespace SyntaxServer

@[simp] theorem Document.toOption_checkNewer (d : Document) (uri : Uri) (version : Int) :
    (d.checkNewer uri version).toOption = if d.version < version then some () else none := by
  unfold Document.checkNewer
  by_cases h : version ≤ d.version
  · rw [if_pos h, if_neg (by omega)]
    rfl
  · rw [if_neg h, if_pos (by omega)]
    rfl

namespace Store

@[simp] theorem toOption_get (s : Store) (uri : Uri) : (s.get uri).toOption = s.find? uri := by
  unfold get
  cases s.find? uri <;> rfl

@[simp] theorem toOption_parse (uri : Uri) (engine : Engine) (language : Language) (text : Text)
    (hint : Option Hint) :
    (parse uri engine language text hint).toOption = engine.parse? language text hint := by
  unfold parse
  cases engine.parse? language text hint <;> rfl

/-- The draft that changes make of a document. -/
def draft? (d : Document) (changes : List Change) : Option Draft :=
  (changes.foldlM Draft.change ⟨d.text, some (Hint.ofTree d.tree)⟩).toOption

theorem Draft.text_change (draft : Draft) (c : Change) :
    (draft.change c).toOption.map Draft.text = draft.text.change? c := by
  obtain ⟨span,r⟩ := c
  cases span with
  | none => rfl
  | some span =>
    rw [← Edit.apply_ofSpan]
    simp only [Draft.change]
    cases Edit.ofSpan draft.text span r <;> rfl

theorem Draft.text_foldlM_change (draft : Draft) (changes : List Change) :
    (changes.foldlM Draft.change draft).toOption.map Draft.text = draft.text.changeAll? changes := by
  induction changes generalizing draft with
  | nil => rfl
  | cons c cs ih =>
    have hc := draft.text_change c
    simp only [Text.changeAll?, List.foldlM_cons, toOption_bind, ← hc]
    cases draft.change c with
    | error e => rfl
    | ok next => exact ih next

theorem text_draft? (d : Document) (changes : List Change) :
    (draft? d changes).map Draft.text = d.text.changeAll? changes :=
  Draft.text_foldlM_change _ changes

variable (s : Store) (uri : Uri) (engine : Engine)

/-- The store after an update that succeeds. -/
def updated? (changes : List Change) (version : Int) : Option Store := do
  let d ← s.find? uri
  if d.version < version then
    let draft ← draft? d changes
    let tree ← engine.parse? d.language draft.text draft.hint
    some (s.insert uri (.ofTree d.language draft.text tree version))
  else none

theorem toOption_updateAll (changes : List Change) (version : Int) :
    (s.updateAll uri engine changes version).toOption = s.updated? uri engine changes version := by
  simp only [updateAll, updated?, toOption_bind, toOption_get]
  cases s.find? uri with
  | none => rfl
  | some d =>
    by_cases hv : d.version < version
    · simp [hv, draft?]
    · simp [hv]

theorem toOption_replace (text : Text) (version : Int) :
    (s.replace uri engine text version).toOption =
      s.updated? uri engine [⟨none, text⟩] version := by
  simp only [replace, updated?, toOption_bind, toOption_get]
  cases s.find? uri with
  | none => rfl
  | some d =>
    by_cases hv : d.version < version
    · simp [hv, draft?, Draft.change]
    · simp [hv]

/-- A lone change of a span. The edit that is prepared always fits, and the hint is that of the draft. -/
theorem toOption_prepare_edit (span : Span) (text : Text) (version : Int) :
    (s.prepare uri span text >>= fun (e, t) => s.edit uri engine e t version).toOption =
      s.updated? uri engine [⟨some span, text⟩] version := by
  simp only [prepare, edit, updated?, toOption_bind, toOption_get]
  cases hd : s.find? uri with
  | none => rfl
  | some d =>
    cases he : Edit.ofSpan d.text span text with
    | error f => simp [he, draft?, Draft.change]
    | ok e =>
      have hfit := Edit.checkFit_ofSpan he
      by_cases hv : d.version < version
      · simp [he, hv, hfit, draft?, Draft.change]
      · simp [he, hv]

theorem toOption_update (changes : List Change) (version : Int) :
    (s.update uri engine changes version).toOption = s.updated? uri engine changes version := by
  unfold update
  split
  · exact toOption_replace s uri engine _ version
  · exact toOption_prepare_edit s uri engine _ _ version
  · exact toOption_updateAll s uri engine _ version

variable {s uri engine}

/-- All that a successful update does: the document was open and older, its changes could be made, the
engine gave a tree, and the document is replaced. -/
theorem updated?_eq_some_iff {changes : List Change} {version : Int} {s' : Store} :
    s.updated? uri engine changes version = some s' ↔
      ∃ d draft tree, s.find? uri = some d ∧ d.version < version ∧ draft? d changes = some draft ∧
        engine.parse? d.language draft.text draft.hint = some tree ∧
        s' = s.insert uri (.ofTree d.language draft.text tree version) := by
  constructor
  · intro h
    cases hd : s.find? uri with
    | none => simp [updated?, hd] at h
    | some d =>
      by_cases hv : d.version < version
      · simp only [updated?, hd, hv, Option.bind_eq_bind, Option.bind_some, ↓reduceIte,
          Option.bind_eq_some_iff, Option.some.injEq] at h
        obtain ⟨draft,hdraft,tree,htree,rfl⟩ := h
        exact ⟨d,draft,tree,rfl,hv,hdraft,htree,rfl⟩
      · simp [updated?, hd, hv] at h
  · rintro ⟨d,draft,tree,hd,hv,hdraft,htree,rfl⟩
    simp [updated?, hd, hv, hdraft, htree]

end Store

end SyntaxServer
