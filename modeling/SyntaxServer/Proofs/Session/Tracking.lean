import Mathlib.Data.List.Induction
import SyntaxServer.Proofs.Session.Workspace

/-! # Which documents are open

What a client says of a document while the session is initialized decides whether it is open: the last open or close
counts, but for an open whose language is not known. Such an open is ignored, so a document that is open stays open
through it, with the text it had.
-/
namespace SyntaxServer

/-- What a client says of a document: that it is open, in a language if one is known, or that it is closed. -/
inductive Tracking where
  | opened (language : Option Language)
  | closed
deriving DecidableEq, Repr

namespace Tracking

/-- The language of a document after something has been said of it, if it is open then. -/
def next (current : Option Language) : Tracking → Option Language
  | opened (some language) => some language
  | opened none => current
  | closed => none

/-- The last that was said of a document is that it is open, where opens without a language are left out. -/
def LastOpens (said : List Tracking) : Prop :=
  ∃ language, (said.filter (· ≠ opened none)).getLast? = some (opened (some language))

theorem foldl_next_isSome_iff (said : List Tracking) : (said.foldl next none).isSome ↔ LastOpens said := by
  induction said using List.reverseRecOn with
  | nil => simp [LastOpens]
  | append_singleton said t ih =>
    rw [List.foldl_append, LastOpens, List.filter_append]
    match t with
    | opened none => simpa [next, LastOpens] using ih
    | opened (some language) => simp [next]
    | closed => simp [next]

theorem lastOpens_iff_of_ne {said : List Tracking} (h : said.getLast? ≠ some (opened none)) :
    LastOpens said ↔ ∃ language, said.getLast? = some (opened (some language)) := by
  induction said using List.reverseRecOn with
  | nil => simp [LastOpens]
  | append_singleton said t _ =>
    have ht : t ≠ opened none := by simpa using h
    simp [LastOpens, ht]

end Tracking

/-- What a message says of a document. One whose params cannot be read says nothing. -/
def Message.tracking? (uri : Uri) : Message → Option Tracking
  | .notification method params =>
    if method = "textDocument/didOpen" then
      (OpenParams.ofJson params).bind fun p =>
        if p.uri = uri then some (.opened (Language.ofDocument? p.uri (some p.languageId))) else none
    else if method = "textDocument/didClose" then
      (CloseParams.ofJson params).bind fun p =>
        if p.uri = uri then some .closed else none
    else none
  | _ => none

namespace Session

/-- What a message says of a document, if it finds the session initialized. -/
def heard? (uri : Uri) (s : Session) (m : Message) : Option Tracking :=
  if s.lifecycle = .initialized then m.tracking? uri else none

/-- What is said of a document in a run, as far as the session is initialized. -/
def said [Codec] (engine : Engine) (uri : Uri) : Session → List Message → List Tracking
  | _, [] => []
  | s, m :: ms => (s.heard? uri m).toList ++ said engine uri (s.step engine m).1 ms

/-- The language of a document that is open. -/
def languageOf? (s : Session) (uri : Uri) : Option Language := (s.store.find? uri).map (·.language)

/-- The methods that ask for what is known of a document, with params that name it. -/
inductive Consults (uri : Uri) (params : Json) : String → Prop where
  | hover {p} (hp : HoverParams.ofJson params = some p) (hu : p.uri = uri) : Consults uri params "textDocument/hover"
  | folds {p} (hp : FoldParams.ofJson params = some p) (hu : p.uri = uri) :
    Consults uri params "textDocument/foldingRange"

variable {engine : Engine} {s s' : Session} {m : Message} {r : Reaction} {params : Json} {method : String}
  {notices : List Notice} {uri : Uri}

theorem languageOf?_insert (other : Uri) (d : Document) :
    languageOf? { s with store := s.store.insert other d } uri =
      if other = uri then some d.language else s.languageOf? uri := by
  by_cases h : other = uri
  · simp [languageOf?, h]
  · simp [languageOf?, h, Store.find?_insert_of_ne s.store (Ne.symm h)]

theorem languageOf?_erase (other : Uri) :
    languageOf? { s with store := s.store.erase other } uri = if other = uri then none else s.languageOf? uri := by
  by_cases h : other = uri
  · simp [languageOf?, h]
  · simp [languageOf?, h, Store.find?_erase_of_ne s.store (Ne.symm h)]

theorem tracking?_didOpen {p : OpenParams} (hp : OpenParams.ofJson params = some p) :
    (Message.notification "textDocument/didOpen" params).tracking? uri =
      if p.uri = uri then some (.opened (Language.ofDocument? p.uri (some p.languageId))) else none := by
  simp [Message.tracking?, hp]

theorem tracking?_didClose {p : CloseParams} (hp : CloseParams.ofJson params = some p) :
    (Message.notification "textDocument/didClose" params).tracking? uri =
      if p.uri = uri then some .closed else none := by
  simp [Message.tracking?, hp]

theorem tracking?_of_ne (ho : method ≠ "textDocument/didOpen") (hc : method ≠ "textDocument/didClose") :
    (Message.notification method params).tracking? uri = none := by
  simp [Message.tracking?, ho, hc]

variable [Codec]

theorem Handled.languageOf?_eq (h : Handled engine s params method s' notices) :
    s'.languageOf? uri =
      ((Message.notification method params).tracking? uri).toList.foldl Tracking.next (s.languageOf? uri) := by
  cases h with
  | @unrecognized p hp hl =>
    rw [tracking?_didOpen (decodeParams_eq_ok_iff.1 hp), hl]
    by_cases hu : p.uri = uri <;> simp [hu, Tracking.next]
  | @opened p language _ hp hl h =>
    have hperform : s.store.perform? engine (.openDocument p.uri language p.text p.version) = .ok _ := h
    cases Store.outcome_of_perform? hperform with
    | opened _ =>
      rw [tracking?_didOpen (decodeParams_eq_ok_iff.1 hp), hl, languageOf?_insert]
      by_cases hu : p.uri = uri <;> simp [hu, Tracking.next, Document.ofTree]
    | revised revises _ _ _ => cases revises
  | @changed p _ _ h =>
    have hperform : s.store.perform? engine (.update p.uri p.changes p.version) = .ok _ := h
    rw [tracking?_of_ne (by decide) (by decide)]
    cases Store.outcome_of_perform? hperform with
    | revised revises found _ _ =>
      cases revises
      rw [languageOf?_insert]
      by_cases hu : p.uri = uri
      · subst hu
        simp [languageOf?, found, Document.ofTree]
      · simp [hu]
  | @notOpen p hp h =>
    rw [tracking?_didClose (decodeParams_eq_ok_iff.1 hp)]
    by_cases hu : p.uri = uri
    · subst hu
      simp [languageOf?, h, Tracking.next]
    · simp [hu]
  | @closed p _ hp _ =>
    rw [tracking?_didClose (decodeParams_eq_ok_iff.1 hp), languageOf?_erase]
    by_cases hu : p.uri = uri <;> simp [hu, Tracking.next]
  | ignored ho _ hx =>
    rw [tracking?_of_ne ho hx]
    rfl

theorem Rejected.tracking?_eq (total : engine.Total) {e : Error} (h : Rejected engine s params method e) :
    (Message.notification method params).tracking? uri = none := by
  cases h with
  | undecodedOpen h => simp [Message.tracking?, (decodeParams_eq_error_iff.1 h).1]
  | undecodedClose h => simp [Message.tracking?, (decodeParams_eq_error_iff.1 h).1]
  | undecodedChange _ => exact tracking?_of_ne (by decide) (by decide)
  | notChanged _ _ => exact tracking?_of_ne (by decide) (by decide)
  | @notOpened p language _ _ _ h =>
    -- only an engine that gives no tree refuses to open a document
    have hperform : s.store.perform? engine (.openDocument p.uri language p.text p.version) = .error _ := h
    have hsome := total language p.text none
    cases Store.perform?_eq_error_iff.1 hperform with
    | unopened hnone => simp [hnone] at hsome
    | unknown revises _ => cases revises
    | stale revises _ _ _ => cases revises
    | unparsed revises _ _ _ _ => cases revises

theorem Transition.languageOf?_eq (total : engine.Total) (h : Transition engine s m s' r) :
    s'.languageOf? uri = (s.heard? uri m).toList.foldl Tracking.next (s.languageOf? uri) := by
  have hnone {t : Session} (ht : t.store = s.store) (hm : s.heard? uri m = none) :
      t.languageOf? uri = (s.heard? uri m).toList.foldl Tracking.next (s.languageOf? uri) := by
    rw [hm, languageOf?, ht]
    rfl
  have hactive (ha : s.lifecycle.isActive = true) : s.heard? uri m = m.tracking? uri := by
    have hl : s.lifecycle = .initialized := by simpa [Lifecycle.isActive] using ha
    rw [heard?, if_pos hl]
  cases h with
  | entered h =>
    obtain ⟨_,_,rfl⟩ := enter_eq_ok h
    exact hnone rfl (ite_self _)
  | handled _ ha h =>
    rw [hactive ha]
    exact (handled_of_documentNotification h).languageOf?_eq
  | failed _ ha h =>
    rw [hactive ha, (rejected_of_documentNotification h).tracking?_eq total]
    rfl
  | dropped _ ha =>
    have hl : s.lifecycle ≠ .initialized := by simpa [Lifecycle.isActive] using ha
    exact hnone rfl (if_neg hl)
  | left => exact hnone rfl (by rw [heard?, tracking?_of_ne (by decide) (by decide), ite_self])
  | _ => exact hnone rfl (ite_self _)

theorem languageOf?_run (total : engine.Total) (ms : List Message) :
    (s.run engine ms).1.languageOf? uri = (said engine uri s ms).foldl Tracking.next (s.languageOf? uri) := by
  induction ms generalizing s with
  | nil => rfl
  | cons m ms ih =>
    rw [run_cons, said, List.foldl_append, ← (transition_step engine s m).languageOf?_eq total]
    exact ih

theorem isSome_find?_run_iff (total : engine.Total) (ms : List Message) :
    ((run engine {} ms).1.store.find? uri).isSome ↔ Tracking.LastOpens (said engine uri {} ms) := by
  have hrun : (run engine {} ms).1.languageOf? uri = _ := languageOf?_run total ms
  have hstart : languageOf? {} uri = none := rfl
  rw [hstart, languageOf?] at hrun
  rw [← Tracking.foldl_next_isSome_iff, ← hrun, Option.isSome_map]

/-- An open without a language is passed over, whatever the session knows of the document. -/
theorem Transition.eq_of_opened_none (h : Transition engine s m s' r)
    (hm : m.tracking? uri = some (.opened none)) : s' = s := by
  cases h with
  | entered _ => cases hm
  | shutDown _ => cases hm
  | left =>
    rw [tracking?_of_ne (by decide) (by decide)] at hm
    cases hm
  | handled _ _ h =>
    cases handled_of_documentNotification h with
    | opened hp hl _ =>
      rw [tracking?_didOpen (decodeParams_eq_ok_iff.1 hp), hl] at hm
      simp at hm
    | changed _ _ =>
      rw [tracking?_of_ne (by decide) (by decide)] at hm
      cases hm
    | closed hp _ =>
      rw [tracking?_didClose (decodeParams_eq_ok_iff.1 hp)] at hm
      simp at hm
    | _ => rfl
  | _ => rfl

theorem query_eq_unknownDocument_iff (hs : s.lifecycle = .initialized) (h : Consults uri params method) :
    s.query method params = .error (.unknownDocument uri) ↔ s.store.find? uri = none := by
  cases h with
  | hover hp hu =>
    simp only [query, hs, Lifecycle.gate, decodeParams_eq_ok_iff.2 hp, ok_bind, hover, bind_eq_error_iff,
      Store.get_eq_error_iff, hu]
    simp [pure, Except.pure]
  | folds hp hu =>
    simp only [query, hs, Lifecycle.gate, decodeParams_eq_ok_iff.2 hp, ok_bind, folds, bind_eq_error_iff,
      Store.get_eq_error_iff, hu]
    simp [pure, Except.pure]

theorem reply_eq_unknownDocument_iff (hs : s.lifecycle = .initialized) (h : Consults uri params method) (id : Id) :
    (s.step engine (.request id method params)).2.reply = some (.outcome id (.error (.unknownDocument uri))) ↔
      s.store.find? uri = none := by
  have hreply : (s.step engine (.request id method params)).2.reply =
      some (.outcome id (s.query method params)) := by
    cases h <;> rfl
  rw [hreply, ← query_eq_unknownDocument_iff hs h]
  simp

/-- After a run a document is open if and only if it was opened last, where opens without a language do not count:
they change nothing at all. So where no such open comes last, the last open or close decides. What is known of a
document can be asked for as long as it is open in this sense, and not after. -/
theorem open_iff_opened_last (total : engine.Total) (ms : List Message) (uri : Uri) :
    (((run engine {} ms).1.store.find? uri).isSome ↔ Tracking.LastOpens (said engine uri {} ms)) ∧
    ((said engine uri {} ms).getLast? ≠ some (.opened none) →
      (((run engine {} ms).1.store.find? uri).isSome ↔
        ∃ language, (said engine uri {} ms).getLast? = some (.opened (some language)))) ∧
    ((run engine {} ms).1.lifecycle = .initialized → ∀ id method params, Consults uri params method →
      (((run engine {} ms).1.step engine (.request id method params)).2.reply =
          some (.outcome id (.error (.unknownDocument uri))) ↔
        ¬ Tracking.LastOpens (said engine uri {} ms))) ∧
    ∀ (s : Session) (m : Message), m.tracking? uri = some (.opened none) → (s.step engine m).1 = s := by
  have hopen : ((run engine {} ms).1.store.find? uri).isSome ↔ _ := isSome_find?_run_iff total ms
  refine ⟨hopen,?_,?_,?_⟩
  · intro hlast
    rw [hopen, Tracking.lastOpens_iff_of_ne hlast]
  · intro hs id method params h
    rw [reply_eq_unknownDocument_iff hs h, ← hopen]
    simp
  · intro s m hm
    exact (transition_step engine s m).eq_of_opened_none hm

end Session

namespace Relabelling

def document (more : List (String × Json)) : Json :=
  .object [("textDocument", .object (("uri", .string "untitled:a") :: more))]

def opening (language : String) (version : Int) : Message :=
  .notification "textDocument/didOpen"
    (document [("languageId", .string language), ("version", .int version), ("text", .string "tru")])

/-- A client opens a document and then opens it again as one of a language that is not known. -/
def messages : List Message :=
  [.request (.number 1) "initialize" (.object [("capabilities", .object []), ("rootUri", .string "untitled:w")]),
    opening "json" 1, opening "plaintext" 2]

/-- It closes the document as well, and opens it once more. -/
def closing : List Message :=
  messages ++ [.notification "textDocument/didClose" (document []), opening "plaintext" 3]

end Relabelling

namespace Session

open Relabelling

attribute [local instance] Codec.sections

theorem consults_document : Consults (.untitled ['a']) (document []) "textDocument/foldingRange" := by
  have hp : (FoldParams.ofJson (document [])).map (·.uri) = some (.untitled ['a']) := by decide +kernel
  obtain ⟨p,hp,hu⟩ := Option.map_eq_some_iff.1 hp
  exact .folds hp hu

/-- Once it is closed the document stays closed, since the open after it does not count. -/
theorem open_iff_opened_last_closing :
    Engine.tokenless.Total ∧
    said .tokenless (.untitled ['a']) {} closing = [.opened (some .json), .opened none, .closed, .opened none] ∧
    (run .tokenless {} closing).1.lifecycle = .initialized ∧
    ((run .tokenless {} closing).1.store.find? (.untitled ['a'])).isNone ∧
    ((run .tokenless {} closing).1.step .tokenless
        (.request .null "textDocument/foldingRange" (document []))).2.reply =
      some (.outcome .null (.error (.unknownDocument (.untitled ['a'])))) := by
  have hsaid : said .tokenless (.untitled ['a']) {} closing =
      [.opened (some .json), .opened none, .closed, .opened none] := by
    decide +kernel
  have hs : (run .tokenless {} closing).1.lifecycle = .initialized := by decide +kernel
  obtain ⟨hopen,_,hreply,_⟩ := open_iff_opened_last Engine.tokenless_total closing (.untitled ['a'])
  have hnot : ¬ Tracking.LastOpens (said .tokenless (.untitled ['a']) {} closing) := by
    rw [hsaid]
    rintro ⟨_,h⟩
    cases h
  refine ⟨Engine.tokenless_total,hsaid,hs,?_,?_⟩
  · rw [← Option.not_isSome, Bool.not_eq_true', ← Bool.not_eq_true, hopen]
    exact hnot
  · exact (hreply hs .null _ _ consults_document).2 hnot

/-- The document is still open though the last that was said of it is that it is open without a language, and what
is known of it can still be asked for. -/
theorem open_after_relabelling :
    (said .tokenless (.untitled ['a']) {} messages).getLast? = some (.opened none) ∧
    ((run .tokenless {} messages).1.store.find? (.untitled ['a'])).isSome ∧
    ((run .tokenless {} messages).1.step .tokenless
        (.request .null "textDocument/foldingRange" (document []))).2.reply ≠
      some (.outcome .null (.error (.unknownDocument (.untitled ['a'])))) := by
  have hs : (run .tokenless {} messages).1.lifecycle = .initialized := by decide +kernel
  have hopen : ((run .tokenless {} messages).1.store.find? (.untitled ['a'])).isSome := by decide +kernel
  refine ⟨by decide +kernel,hopen,?_⟩
  rw [ne_eq, reply_eq_unknownDocument_iff hs consults_document]
  intro hnone
  rw [hnone] at hopen
  cases hopen

end Session

end SyntaxServer
