import SyntaxServer.Proofs.Session.Step
import SyntaxServer.Proofs.Store.InPlace

/-! # Notifications in place

A server works on its session in place and sends notices while it does so; an error takes back neither. The
methods on documents write and send only when nothing can fail any more, so of a notification that fails there is
no trace but the line in the client's log.
-/
namespace SyntaxServer

/-- A session that is worked on, and the notices sent so far. -/
structure Desk where
  session : Session
  sent : List Notice

namespace Desk

open Procedure

/-- The desk after the session has changed and notices have been sent. -/
def after (desk : Desk) (result : Session × List Notice) : Desk := ⟨result.1, desk.sent ++ result.2⟩

/-- Sends what there is to say about the session as it stands. -/
def send (notices : Session → List Notice) : Procedure Desk Unit :=
  modify fun desk => desk.after (desk.session, notices desk.session)

/-- Work on the store of the session, where it stands. -/
def onStore {α : Type} (p : Procedure Store α) : Procedure Desk α :=
  ExceptT.mk fun desk =>
    let (result, store) := p.exec desk.session.store
    (result, { desk with session := { desk.session with store } })

variable (engine : Engine)

def didOpen (p : OpenParams) : Procedure Desk Unit :=
  match Language.ofDocument? p.uri (some p.languageId) with
  | none => send fun _ => [.log .log s!"No grammar for {p.uri}, ignoring it"]
  | some language => do
    onStore (Store.Operation.inPlace engine (.openDocument p.uri language p.text p.version))
    send fun _ => [.log .log s!"Document opened: {p.uri}"]
    send (·.publish p.uri)

def didChange (p : ChangeParams) : Procedure Desk Unit := do
  onStore (Store.Operation.inPlace engine (.update p.uri p.changes p.version))
  send (·.publish p.uri)

def didClose (p : CloseParams) : Procedure Desk Unit := do
  let found ← onStore (modifyGet fun store => store.close p.uri)
  if found then
    send fun s => if s.publishes then [.diagnostics p.uri [] none] else []
    send fun _ => [.log .log s!"Document closed: {p.uri}"]

def documentNotification [Codec] (method : String) (params : Json) : Procedure Desk Unit :=
  match method with
  | "textDocument/didOpen" => do didOpen engine (← decodeParams method OpenParams.ofJson params)
  | "textDocument/didChange" => do didChange engine (← decodeParams method ChangeParams.ofJson params)
  | "textDocument/didClose" => do didClose (← decodeParams method CloseParams.ofJson params)
  | _ => pure ()

def notification [Codec] (method : String) (params : Json) : Procedure Desk Unit := do
  if method = "exit" then modify fun desk => { desk with session := desk.session.leave }
  else
    let active ← look fun desk => .ok desk.session.lifecycle.isActive
    if active then
      try documentNotification engine method params
      catch e => send fun _ => [.log .error s!"{method} failed: {e.message}"]

theorem after_nil (desk : Desk) : desk.after (desk.session, []) = desk := by
  rw [after, List.append_nil]

theorem send_bind_send (first second : Session → List Notice) :
    (send first >>= fun _ => send second) = send fun s => first s ++ second s := by
  funext desk
  change (_, _) = (_, _)
  simp only [after, List.append_assoc]

variable {engine}

/-- After an operation on the store only notices are left to be sent, and sending does not fail. -/
theorem exec_onStore_bind_send (op : Store.Operation) (notices : Session → List Notice) (desk : Desk) :
    exec (onStore (op.inPlace engine) >>= fun _ => send notices) desk =
      settle desk (Except.map desk.after do
        let store ← desk.session.store.perform? engine op
        let s := { desk.session with store }
        return (s, notices s)) := by
  have hop : exec (onStore (op.inPlace engine)) desk =
      ((exec (op.inPlace engine) desk.session.store).1, { desk with session := { desk.session with
        store := (exec (op.inPlace engine) desk.session.store).2 } }) := rfl
  rw [exec_bind, hop, Store.exec_inPlace]
  cases desk.session.store.perform? engine op with
  | error e => rfl
  | ok store => rfl

theorem exec_didOpen (p : OpenParams) (desk : Desk) :
    exec (didOpen engine p) desk = settle desk ((desk.session.didOpen engine p).map desk.after) := by
  unfold didOpen Session.didOpen
  cases Language.ofDocument? p.uri (some p.languageId) with
  | none => rfl
  | some language =>
    simp only [send_bind_send]
    exact exec_onStore_bind_send (.openDocument p.uri language p.text p.version) _ desk

theorem exec_didChange (p : ChangeParams) (desk : Desk) :
    exec (didChange engine p) desk = settle desk ((desk.session.didChange engine p).map desk.after) :=
  exec_onStore_bind_send (.update p.uri p.changes p.version) (·.publish p.uri) desk

theorem exec_didClose (p : CloseParams) (desk : Desk) :
    exec (didClose p) desk = settle desk ((desk.session.didClose p).map desk.after) := by
  have hclose : exec (onStore (modifyGet fun store => store.close p.uri)) desk =
      (.ok (desk.session.store.find? p.uri).isSome, { desk with session := { desk.session with
        store := desk.session.store.erase p.uri } }) := rfl
  rw [didClose, exec_bind, hclose]
  cases hd : desk.session.store.find? p.uri with
  | none =>
    -- the store is written to also here, but nothing is in it to be taken out
    simp only [Session.didClose, Store.close, hd, Option.isSome_none, Store.erase_of_find?_eq_none hd,
      Except.map, after_nil]
    rfl
  | some d =>
    simp only [Session.didClose, Store.close, hd, Option.isSome_some, if_true, send_bind_send]
    rfl

theorem exec_decoded {α : Type} {desk : Desk} (x : Except Error α) {p : α → Procedure Desk Unit}
    {f : α → Except Error (Session × List Notice)}
    (h : ∀ a, exec (p a) desk = settle desk ((f a).map desk.after)) :
    exec (liftM x >>= p) desk = settle desk ((x >>= f).map desk.after) := by
  rw [exec_bind, exec_lift]
  cases x with
  | error e => rfl
  | ok a => exact h a

section Codec

variable [Codec]

theorem exec_documentNotification (method : String) (params : Json) (desk : Desk) :
    exec (documentNotification engine method params) desk =
      settle desk ((desk.session.documentNotification engine method params).map desk.after) := by
  unfold documentNotification Session.documentNotification
  split
  · exact exec_decoded _ fun p => exec_didOpen p desk
  · exact exec_decoded _ fun p => exec_didChange p desk
  · exact exec_decoded _ fun p => exec_didClose p desk
  · simp only [Except.map, after_nil]
    rfl

theorem exec_notification (method : String) (params : Json) (desk : Desk) :
    exec (notification engine method params) desk =
      (.ok (), desk.after (desk.session.notification engine method params)) := by
  unfold notification Session.notification
  by_cases he : method = "exit"
  · simp only [he, if_true, exec_modify, after, List.append_nil]
  simp only [he, if_false, exec_bind, exec_look]
  cases ha : desk.session.lifecycle.isActive with
  | false =>
    simp only [Bool.false_eq_true, if_false, after_nil]
    rfl
  | true =>
    simp only [if_true, exec_tryCatch, exec_documentNotification]
    cases desk.session.documentNotification engine method params with
    | ok result => rfl
    | error e => rfl

/-- An operation that is refused leaves the store as it was, whatever it was refused for, and a notification that
is rejected leaves the session as it was: the client is sent one line for its log, which names the method and the
error, and nothing else. -/
theorem failure_leaves_no_trace (engine : Engine) :
    (∀ (s s' : Store) (op : Store.Operation) (e : Error),
      (exec (op.inPlace engine) s = (.error e, s') ↔ s.perform? engine op = .error e ∧ s' = s) ∧
      (s.perform? engine op = .error e ↔ Store.Refusal engine s op e)) ∧
    ∀ (desk desk' : Desk) (method : String) (params : Json) (e : Error),
      (exec (documentNotification engine method params) desk = (.error e, desk') ↔
        Session.Rejected engine desk.session params method e ∧ desk' = desk) ∧
      (Session.Rejected engine desk.session params method e → desk.session.lifecycle = .initialized →
        ∃ notice : Notice,
          notice.toJson = .object [("jsonrpc", .string "2.0"), ("method", .string "window/logMessage"),
            ("params", .object [("type", .int 1),
              ("message", .string (Product.name ++ ": " ++ s!"{method} failed: {e.message}"))])] ∧
          exec (notification engine method params) desk =
            (.ok (), { desk with sent := desk.sent ++ [notice] }) ∧
          desk.session.step engine (.notification method params) =
            (desk.session, { notices := [notice] })) := by
  constructor
  · intro s s' op e
    rw [Store.exec_inPlace, settle_eq_error_iff]
    exact ⟨Iff.rfl,Store.perform?_eq_error_iff⟩
  · intro desk desk' method params e
    constructor
    · rw [exec_documentNotification, settle_eq_error_iff, ← Session.documentNotification_eq_error_iff]
      cases desk.session.documentNotification engine method params <;> simp [Except.map]
    · intro hrejected hactive
      have hnotification := Session.notification_of_rejected hrejected hactive
      refine ⟨.log .error s!"{method} failed: {e.message}",rfl,?_,?_⟩
      · rw [exec_notification, hnotification]
        rfl
      · simp only [Session.step, hnotification]

end Codec

attribute [local instance] Codec.sections

/-- A desk with one document open. -/
def sample : Desk where
  session := {
    lifecycle := .initialized
    store := Store.insert {} (.untitled ['a'])
      (.ofTree .json "tru".toList (Engine.tokenlessTree "tru".toList) 1) }
  sent := []

/-- A change of the whole text, and one on a line that the new text does not have. -/
def misplacedBatch : Json :=
  .object [("textDocument", .object [("uri", .string "untitled:a"), ("version", .int 2)]),
    ("contentChanges", .array [.object [("text", .string "true")],
      .object [("range", Span.toJson ⟨⟨9, 0⟩, ⟨9, 0⟩⟩), ("text", .string "x")]])]

theorem failure_leaves_no_trace_misplacedBatch :
    exec (documentNotification .tokenless "textDocument/didChange" misplacedBatch) sample =
      (.error (.ofEditFault (.startPastLastLine ⟨9, 0⟩ 0)), sample) ∧
    ∃ notice : Notice,
      notice.toJson = .object [("jsonrpc", .string "2.0"), ("method", .string "window/logMessage"),
        ("params", .object [("type", .int 1), ("message", .string
          "sitter-lsp: textDocument/didChange failed: invalid edit: start 9:0 is past the last line 0")])] ∧
      exec (notification .tokenless "textDocument/didChange" misplacedBatch) sample =
        (.ok (), { sample with sent := [notice] }) ∧
      sample.session.step .tokenless (.notification "textDocument/didChange" misplacedBatch) =
        (sample.session, { notices := [notice] }) := by
  have hparams : (decodeParams "textDocument/didChange" ChangeParams.ofJson misplacedBatch).toOption.map
      (fun p => (p.uri, p.version, p.changes)) =
        some (.untitled ['a'], 2, [⟨none, "true".toList⟩, ⟨some ⟨⟨9, 0⟩, ⟨9, 0⟩⟩, "x".toList⟩]) := by
    decide +kernel
  obtain ⟨⟨uri,version,changes⟩,hp,heq⟩ := Option.map_eq_some_iff.1 hparams
  cases heq
  have hrejected : Session.Rejected .tokenless sample.session misplacedBatch "textDocument/didChange"
      (.ofEditFault (.startPastLastLine ⟨9, 0⟩ 0)) := .notChanged (toOption_eq_some_iff.1 hp) rfl
  obtain ⟨hexec,hnotice⟩ := (failure_leaves_no_trace .tokenless).2 sample sample "textDocument/didChange"
    misplacedBatch (.ofEditFault (.startPastLastLine ⟨9, 0⟩ 0))
  obtain ⟨notice,hjson,hsent,hstep⟩ := hnotice hrejected rfl
  exact ⟨hexec.2 ⟨hrejected,rfl⟩,notice,hjson.trans rfl,hsent,hstep⟩

end Desk

end SyntaxServer
