import SyntaxServer.Session.Step
import SyntaxServer.Proofs.Result

/-! # What a step can do

Every step of a session is one of ten transitions, and a notification about a document that does not fail is
handled in one of six ways. Facts about steps are read off these, and facts about runs follow from facts about
steps.
-/
namespace SyntaxServer.Session

theorem shutdown_eq_ok {l next : Lifecycle} (h : l.shutdown = .ok next) :
    l = .initialized ∧ next = .shuttingDown := by
  cases l <;> cases h
  exact ⟨rfl,rfl⟩

variable [Codec] (engine : Engine) (s : Session)

/-- The transitions of a session, with what each leads to. -/
inductive Transition : Message → Session → Reaction → Prop where
  | entered {id params s' w} (h : s.enter params = .ok (s', w)) :
    Transition (.request id "initialize" params) s'
      { notices := [.log .info s!"initialized with workspace root {w.root}"]
        reply := some (.outcome id (.ok .initialized))
        walk := some w }
  | notEntered {id params e} (h : s.enter params = .error e) :
    Transition (.request id "initialize" params) s { reply := some (.outcome id (.error e)) }
  | shutDown {id params next} (h : s.lifecycle.shutdown = .ok next) :
    Transition (.request id "shutdown" params) { s with lifecycle := next }
      { reply := some (.outcome id (.ok .shutdown)) }
  | notShutDown {id params e} (h : s.lifecycle.shutdown = .error e) :
    Transition (.request id "shutdown" params) s { reply := some (.outcome id (.error e)) }
  | queried {id method params} (hi : method ≠ "initialize") (hs : method ≠ "shutdown") :
    Transition (.request id method params) s
      { reply := some (.outcome id (s.query method params)) }
  | left {params} : Transition (.notification "exit" params) s.leave {}
  | dropped {method params} (he : method ≠ "exit") (ha : s.lifecycle.isActive = false) :
    Transition (.notification method params) s {}
  | handled {method params s' notices} (he : method ≠ "exit") (ha : s.lifecycle.isActive = true)
      (h : s.documentNotification engine method params = .ok (s', notices)) :
    Transition (.notification method params) s' { notices }
  | failed {method params e} (he : method ≠ "exit") (ha : s.lifecycle.isActive = true)
      (h : s.documentNotification engine method params = .error e) :
    Transition (.notification method params) s
      { notices := [.log .error s!"{method} failed: {e.message}"] }
  | answered : Transition .response s {}

theorem transition_request (id : Id) (method : String) (params : Json) :
    Transition engine s (.request id method params) (s.step engine (.request id method params)).1
      (s.step engine (.request id method params)).2 := by
  by_cases hi : method = "initialize"
  · subst hi
    cases h : s.enter params with
    | ok r => simpa only [step, request, h] using Transition.entered h
    | error e => simpa only [step, request, h] using Transition.notEntered h
  by_cases hs : method = "shutdown"
  · subst hs
    cases h : s.lifecycle.shutdown with
    | ok next => simpa only [step, request, h] using Transition.shutDown h
    | error e => simpa only [step, request, h] using Transition.notShutDown h
  · have hrequest : s.request method params = (s, s.query method params, none) := by
      simp only [request]
    simpa only [step, hrequest] using Transition.queried hi hs

theorem transition_notification (method : String) (params : Json) :
    Transition engine s (.notification method params) (s.step engine (.notification method params)).1
      (s.step engine (.notification method params)).2 := by
  by_cases he : method = "exit"
  · subst he
    simpa only [step, notification, if_true] using Transition.left
  cases ha : s.lifecycle.isActive with
  | false => simpa [step, notification, he, ha] using Transition.dropped he ha
  | true =>
    cases h : s.documentNotification engine method params with
    | ok r => simpa [step, notification, he, ha, h] using Transition.handled he ha h
    | error e => simpa [step, notification, he, ha, h] using Transition.failed he ha h

theorem transition_step (m : Message) :
    Transition engine s m (s.step engine m).1 (s.step engine m).2 := by
  cases m with
  | request id method params => exact transition_request engine s id method params
  | notification method params => exact transition_notification engine s method params
  | response => exact .answered

variable {engine s} {s' : Session}

theorem enter_eq_ok {params : Json} {w : Workspace} (h : s.enter params = .ok (s', w)) :
    s.lifecycle = .uninitialized ∧ s.workspace = none ∧
      s' = { s with lifecycle := .initialized, workspace := some w } := by
  obtain ⟨next,hnext,h⟩ := bind_eq_ok h
  obtain ⟨p,_,h⟩ := bind_eq_ok h
  obtain ⟨w',_,h⟩ := bind_eq_ok h
  obtain ⟨r,hrecord,h⟩ := bind_eq_ok h
  cases h
  have hlifecycle : s.lifecycle = .uninitialized ∧ next = .initialized := by
    cases hl : s.lifecycle <;> rw [hl] at hnext <;> cases hnext
    exact ⟨rfl,rfl⟩
  have hworkspace : s.workspace = none ∧ r = { s with workspace := some w } := by
    unfold recordWorkspace at hrecord
    split at hrecord <;> cases hrecord
    exact ⟨‹_›,rfl⟩
  obtain ⟨hl,rfl⟩ := hlifecycle
  obtain ⟨hw,rfl⟩ := hworkspace
  exact ⟨hl,hw,rfl⟩

/-- What a notification about a document does when it does not fail. -/
inductive Handled (engine : Engine) (s : Session) (params : Json) : String → Session → List Notice → Prop where
  | unrecognized {p} (hp : decodeParams "textDocument/didOpen" OpenParams.ofJson params = .ok p)
      (hl : Language.ofDocument? p.uri (some p.languageId) = none) :
    Handled engine s params "textDocument/didOpen" s [.log .log s!"No grammar for {p.uri}, ignoring it"]
  | opened {p language store} (hp : decodeParams "textDocument/didOpen" OpenParams.ofJson params = .ok p)
      (hl : Language.ofDocument? p.uri (some p.languageId) = some language)
      (h : s.store.openDocument p.uri engine language p.text p.version = .ok store) :
    Handled engine s params "textDocument/didOpen" { s with store }
      (.log .log s!"Document opened: {p.uri}" :: publish { s with store } p.uri)
  | changed {p store} (hp : decodeParams "textDocument/didChange" ChangeParams.ofJson params = .ok p)
      (h : s.store.update p.uri engine p.changes p.version = .ok store) :
    Handled engine s params "textDocument/didChange" { s with store } (publish { s with store } p.uri)
  | notOpen {p} (hp : decodeParams "textDocument/didClose" CloseParams.ofJson params = .ok p)
      (h : s.store.find? p.uri = none) : Handled engine s params "textDocument/didClose" s []
  | closed {p d} (hp : decodeParams "textDocument/didClose" CloseParams.ofJson params = .ok p)
      (h : s.store.find? p.uri = some d) :
    Handled engine s params "textDocument/didClose" { s with store := s.store.erase p.uri }
      ((if s.publishes then [.diagnostics p.uri [] none] else []) ++
        [.log .log s!"Document closed: {p.uri}"])
  | ignored {method} (ho : method ≠ "textDocument/didOpen") (hc : method ≠ "textDocument/didChange")
      (hx : method ≠ "textDocument/didClose") : Handled engine s params method s []

theorem handled_of_documentNotification {method : String} {params : Json} {notices : List Notice}
    (h : s.documentNotification engine method params = .ok (s', notices)) :
    Handled engine s params method s' notices := by
  unfold documentNotification at h
  split at h
  · obtain ⟨p,hp,h⟩ := bind_eq_ok h
    unfold didOpen at h
    split at h
    · next hl =>
      cases h
      exact .unrecognized hp hl
    · next language hl =>
      obtain ⟨store,hstore,h⟩ := bind_eq_ok h
      cases h
      exact .opened hp hl hstore
  · obtain ⟨p,hp,h⟩ := bind_eq_ok h
    obtain ⟨store,hstore,h⟩ := bind_eq_ok h
    cases h
    exact .changed hp hstore
  · obtain ⟨p,hp,h⟩ := bind_eq_ok h
    cases hd : s.store.find? p.uri with
    | none =>
      simp only [didClose, Store.close, hd, Option.isSome_none] at h
      cases h
      exact .notOpen hp hd
    | some d =>
      simp only [didClose, Store.close, hd, Option.isSome_some] at h
      cases h
      exact .closed hp hd
  · next ho hc hx =>
    cases h
    exact .ignored ho hc hx

/-- Why a notification about a document fails: its params are not what the method is given, or the store refuses
the document. Nothing that is decoded fails to be closed. -/
inductive Rejected (engine : Engine) (s : Session) (params : Json) : String → Error → Prop where
  | undecodedOpen {e} (h : decodeParams "textDocument/didOpen" OpenParams.ofJson params = .error e) :
    Rejected engine s params "textDocument/didOpen" e
  | undecodedChange {e} (h : decodeParams "textDocument/didChange" ChangeParams.ofJson params = .error e) :
    Rejected engine s params "textDocument/didChange" e
  | undecodedClose {e} (h : decodeParams "textDocument/didClose" CloseParams.ofJson params = .error e) :
    Rejected engine s params "textDocument/didClose" e
  | notOpened {p language e} (hp : decodeParams "textDocument/didOpen" OpenParams.ofJson params = .ok p)
      (hl : Language.ofDocument? p.uri (some p.languageId) = some language)
      (h : s.store.openDocument p.uri engine language p.text p.version = .error e) :
    Rejected engine s params "textDocument/didOpen" e
  | notChanged {p e} (hp : decodeParams "textDocument/didChange" ChangeParams.ofJson params = .ok p)
      (h : s.store.update p.uri engine p.changes p.version = .error e) :
    Rejected engine s params "textDocument/didChange" e

theorem rejected_of_documentNotification {method : String} {params : Json} {e : Error}
    (h : s.documentNotification engine method params = .error e) : Rejected engine s params method e := by
  unfold documentNotification at h
  split at h
  · rcases bind_eq_error_iff.1 h with h | ⟨p,hp,h⟩
    · exact .undecodedOpen h
    unfold didOpen at h
    split at h
    · cases h
    · next language hl =>
      rcases bind_eq_error_iff.1 h with h | ⟨_,_,h⟩
      · exact .notOpened hp hl h
      · cases h
  · rcases bind_eq_error_iff.1 h with h | ⟨p,hp,h⟩
    · exact .undecodedChange h
    rcases bind_eq_error_iff.1 h with h | ⟨_,_,h⟩
    · exact .notChanged hp h
    · cases h
  · rcases bind_eq_error_iff.1 h with h | ⟨p,_,h⟩
    · exact .undecodedClose h
    unfold didClose at h
    split at h <;> cases h
  · cases h

theorem documentNotification_eq_error_iff {method : String} {params : Json} {e : Error} :
    s.documentNotification engine method params = .error e ↔ Rejected engine s params method e := by
  refine ⟨rejected_of_documentNotification,?_⟩
  intro h
  cases h with
  | undecodedOpen h => simp only [documentNotification, h, error_bind]
  | undecodedChange h => simp only [documentNotification, h, error_bind]
  | undecodedClose h => simp only [documentNotification, h, error_bind]
  | notOpened hp hl h => simp only [documentNotification, hp, ok_bind, didOpen, hl, h, error_bind]
  | notChanged hp h => simp only [documentNotification, hp, ok_bind, didChange, h, error_bind]

theorem notification_of_rejected {method : String} {params : Json} {e : Error}
    (h : Rejected engine s params method e) (hactive : s.lifecycle = .initialized) :
    s.notification engine method params = (s, [.log .error s!"{method} failed: {e.message}"]) := by
  have hexit : method ≠ "exit" := by cases h <;> decide
  have hfailed := documentNotification_eq_error_iff.2 h
  simp [notification, hexit, Lifecycle.isActive, hactive, hfailed]

theorem documentNotification_eq_ok {method : String} {params : Json} {notices : List Notice}
    (h : s.documentNotification engine method params = .ok (s', notices)) :
    s' = { s with store := s'.store } := by
  cases handled_of_documentNotification h <;> rfl

namespace Transition

variable {m : Message} {r : Reaction}

theorem lifecycle_eq_exited_iff (h : Transition engine s m s' r) (hs : s.lifecycle ≠ .exited) :
    s'.lifecycle = .exited ↔ ∃ params, m = .notification "exit" params := by
  cases h with
  | entered h =>
    obtain ⟨_,_,rfl⟩ := enter_eq_ok h
    simp
  | shutDown h =>
    obtain ⟨_,rfl⟩ := shutdown_eq_ok h
    simp
  | left => simp [leave, Lifecycle.exit]
  | handled he _ h =>
    rw [documentNotification_eq_ok h]
    simp [hs, he]
  | dropped he _ => simp [hs, he]
  | failed he _ _ => simp [hs, he]
  | notEntered h => simp [hs]
  | notShutDown h => simp [hs]
  | queried _ _ => simp [hs]
  | answered => simp [hs]

theorem lifecycle_ne_uninitialized (h : Transition engine s m s' r) (hs : s.lifecycle ≠ .uninitialized) :
    s'.lifecycle ≠ .uninitialized := by
  cases h with
  | entered h => exact absurd (enter_eq_ok h).1 hs
  | shutDown h =>
    obtain ⟨_,rfl⟩ := shutdown_eq_ok h
    simp
  | left => simp [leave, Lifecycle.exit]
  | handled _ _ h =>
    rw [documentNotification_eq_ok h]
    exact hs
  | _ => exact hs

end Transition

end SyntaxServer.Session
