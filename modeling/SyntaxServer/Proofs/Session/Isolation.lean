import SyntaxServer.Proofs.Session.Diagnostics
import SyntaxServer.Proofs.Session.Params

/-! # Documents do not influence each other

What a session does with a document depends on what the client has said of this document and of the session as a
whole, and on no other document. So a run goes the same way, as far as one can see from a document, when the
messages about all others are left out.
-/
namespace SyntaxServer

/-- The document that a message is about. -/
def Message.documentUri? : Message → Option Uri
  | .request _ method params =>
    if method ∈ ["textDocument/hover", "textDocument/foldingRange"] then params.documentUri? else none
  | .notification method params =>
    if method ∈ ["textDocument/didOpen", "textDocument/didChange", "textDocument/didClose"] then
      params.documentUri?
    else none
  | .response => none

/-- A message is about this document or about none. -/
def Message.concerns (uri : Uri) (m : Message) : Bool := m.documentUri?.all (· = uri)

namespace Store

/-- Something is done to a document in the same way in all stores that have this document. -/
def DependsOn (uri : Uri) (found : Option Document) (f : Store → Except Error Store) : Prop :=
  ∃ x : Except Error Document, ∀ s : Store, s.find? uri = found → f s = s.insert uri <$> x

variable {engine : Engine} {uri : Uri} {found : Option Document} {version : Int}

theorem dependsOn_openDocument (language : Language) (text : Text) :
    DependsOn uri found (·.openDocument uri engine language text version) := by
  refine ⟨(Document.ofTree language text · version) <$> parse uri engine language text none,?_⟩
  intro s _
  simp only [openDocument, map_eq_pure_bind, bind_assoc, pure_bind]

theorem dependsOn_revise (next : Document → Except Error Draft) :
    DependsOn uri found (·.revise uri engine version next) := by
  cases found with
  | none =>
    refine ⟨.error (.unknownDocument uri),?_⟩
    intro s hs
    simp only [revise, get_eq_error_iff.2 ⟨hs,rfl⟩, error_bind]
    rfl
  | some d =>
    refine ⟨do
      d.checkNewer uri version
      let draft ← next d
      let tree ← parse uri engine d.language draft.text draft.hint
      return d.revise draft.text tree version,?_⟩
    intro s hs
    simp only [revise, get_eq_ok_iff.2 hs, ok_bind, map_bind, map_pure]

theorem dependsOn_update (changes : List Change) : DependsOn uri found (·.update uri engine changes version) := by
  match changes with
  | [] => exact dependsOn_revise _
  | [⟨none, text⟩] => exact dependsOn_revise fun _ => .ok ⟨text, none⟩
  | [⟨some span, r⟩] =>
    cases found with
    | none => exact ⟨.error (.unknownDocument uri),fun s hs => update_lone_of_none hs⟩
    | some d =>
      cases hspan : Edit.ofSpan d.text span r with
      | error fault => exact ⟨.error (.ofEditFault fault),fun s hs => update_lone_of_error hs hspan⟩
      | ok edit =>
        have hall : DependsOn uri (some d) (·.updateAll uri engine [⟨some span, r⟩] version) := dependsOn_revise _
        obtain ⟨x,hx⟩ := hall
        exact ⟨x,fun s hs => (update_lone_of_ok hs hspan).trans (hx s hs)⟩
  | ⟨none, _⟩ :: _ :: _ => exact dependsOn_revise _
  | ⟨some _, _⟩ :: _ :: _ => exact dependsOn_revise _

end Store

namespace Session

/-- Two sessions are the same as far as one can see from a document. -/
structure AgreesOn (uri : Uri) (s t : Session) : Prop where
  lifecycle : s.lifecycle = t.lifecycle
  workspace : s.workspace = t.workspace
  exitCode : s.exitCode = t.exitCode
  document : s.store.find? uri = t.store.find? uri

theorem AgreesOn.refl (uri : Uri) (s : Session) : AgreesOn uri s s := ⟨rfl,rfl,rfl,rfl⟩

variable {engine : Engine} {uri : Uri} {s s' t u : Session} {m : Message} {r : Reaction} {method : String}
  {params : Json}

theorem AgreesOn.trans (h : AgreesOn uri s t) (h' : AgreesOn uri t u) : AgreesOn uri s u :=
  ⟨h.lifecycle.trans h'.lifecycle,h.workspace.trans h'.workspace,h.exitCode.trans h'.exitCode,
    h.document.trans h'.document⟩

theorem AgreesOn.publishes_eq (h : AgreesOn uri s t) : s.publishes = t.publishes := by
  rw [publishes, publishes, h.workspace]

/-- Both sessions come to the same result and still agree, or both fail with the same error. -/
inductive Alike {α : Type} (uri : Uri) : Except Error (Session × α) → Except Error (Session × α) → Prop where
  | ok {s t : Session} (h : AgreesOn uri s t) (a : α) : Alike uri (.ok (s, a)) (.ok (t, a))
  | error (e : Error) : Alike uri (.error e) (.error e)

theorem alike_bind {α β : Type} (x : Except Error α) {f g : α → Except Error (Session × β)}
    (hfg : ∀ a, x = .ok a → Alike uri (f a) (g a)) : Alike uri (x >>= f) (x >>= g) := by
  cases x with
  | error e => exact .error e
  | ok a => exact hfg a rfl

section Alike

variable (h : AgreesOn uri s t)

include h

theorem alike_publish (notices : List Notice) {f : Store → Except Error Store}
    (hf : Store.DependsOn uri (s.store.find? uri) f) :
    Alike uri
      (do let store ← f s.store; return ({ s with store }, notices ++ publish { s with store } uri))
      (do let store ← f t.store; return ({ t with store }, notices ++ publish { t with store } uri)) := by
  obtain ⟨x,hx⟩ := hf
  rw [hx s.store rfl, hx t.store h.document.symm]
  cases x with
  | error e => exact .error e
  | ok d =>
    have hagrees : AgreesOn uri { s with store := s.store.insert uri d } { t with store := t.store.insert uri d } :=
      ⟨h.lifecycle,h.workspace,h.exitCode,by simp⟩
    have hpublish : publish { s with store := s.store.insert uri d } uri =
        publish { t with store := t.store.insert uri d } uri := by
      rw [publish, publish, hagrees.publishes_eq, hagrees.document]
    change Alike uri (.ok (_, _)) (.ok (_, _))
    rw [hpublish]
    exact .ok hagrees _

theorem alike_didOpen {p : OpenParams} (hp : p.uri = uri) : Alike uri (s.didOpen engine p) (t.didOpen engine p) := by
  subst hp
  unfold didOpen
  split
  · exact .ok h _
  · next language _ => exact alike_publish h [_] (Store.dependsOn_openDocument language p.text)

theorem alike_didChange {p : ChangeParams} (hp : p.uri = uri) :
    Alike uri (s.didChange engine p) (t.didChange engine p) := by
  subst hp
  exact alike_publish h [] (Store.dependsOn_update p.changes)

theorem alike_didClose {p : CloseParams} (hp : p.uri = uri) : Alike uri (s.didClose p) (t.didClose p) := by
  subst hp
  unfold didClose Store.close
  rw [h.document]
  cases t.store.find? p.uri with
  | none => exact .ok h _
  | some d =>
    have hagrees : AgreesOn p.uri { s with store := s.store.erase p.uri } { t with store := t.store.erase p.uri } :=
      ⟨h.lifecycle,h.workspace,h.exitCode,by simp⟩
    simp only [Option.isSome_some, hagrees.publishes_eq]
    exact .ok hagrees _

variable [Codec]

theorem alike_documentNotification (engine : Engine) (hm : (Message.notification method params).concerns uri) :
    Alike uri (s.documentNotification engine method params) (t.documentNotification engine method params) := by
  have hconcerns : ∀ m ∈ ["textDocument/didOpen", "textDocument/didChange", "textDocument/didClose"],
      method = m → ∀ u, params.documentUri? = some u → u = uri := by
    rintro _ hmem rfl u hu
    simpa [Message.concerns, Message.documentUri?, hmem, hu] using hm
  unfold documentNotification
  split
  · apply alike_bind
    intro p hp
    exact alike_didOpen h (hconcerns _ (by simp) rfl _ (documentUri?_openParams hp))
  · apply alike_bind
    intro p hp
    exact alike_didChange h (hconcerns _ (by simp) rfl _ (documentUri?_changeParams hp))
  · apply alike_bind
    intro p hp
    exact alike_didClose h (hconcerns _ (by simp) rfl _ (documentUri?_closeParams hp))
  · exact .ok h _

theorem query_eq (id : Id) (hm : (Message.request id method params).concerns uri) :
    s.query method params = t.query method params := by
  have hget (hmem : method ∈ ["textDocument/hover", "textDocument/foldingRange"]) {u : Uri}
      (hu : params.documentUri? = some u) : s.store.get u = t.store.get u := by
    have huri : u = uri := by simpa [Message.concerns, Message.documentUri?, hmem, hu] using hm
    rw [huri, Store.get, Store.get, h.document]
  unfold query
  rw [h.lifecycle]
  split
  · cases hp : decodeParams "textDocument/hover" HoverParams.ofJson params with
    | error e => rfl
    | ok p =>
      simp only [ok_bind, hover, hget (by simp) (documentUri?_hoverParams hp)]
  · cases hp : decodeParams "textDocument/foldingRange" FoldParams.ofJson params with
    | error e => rfl
    | ok p =>
      simp only [ok_bind, folds, hget (by simp) (documentUri?_foldParams hp)]
  · rfl

theorem alike_enter (params : Json) : Alike uri (s.enter params) (t.enter params) := by
  unfold enter
  rw [h.lifecycle]
  apply alike_bind
  intro next _
  apply alike_bind
  intro p _
  apply alike_bind
  intro w _
  rw [recordWorkspace, recordWorkspace, h.workspace]
  cases t.workspace with
  | none =>
    have hagrees : AgreesOn uri { s with lifecycle := next, workspace := some w }
        { t with lifecycle := next, workspace := some w } := ⟨rfl,rfl,h.exitCode,h.document⟩
    exact .ok hagrees w
  | some _ => exact .error _

theorem request_concerns (id : Id) (hm : (Message.request id method params).concerns uri) :
    (s.request method params).2 = (t.request method params).2 ∧
      AgreesOn uri (s.request method params).1 (t.request method params).1 := by
  unfold request
  split
  · have henter := alike_enter h params
    generalize s.enter params = x at henter ⊢
    generalize t.enter params = y at henter ⊢
    cases henter with
    | ok hagrees w => exact ⟨rfl,hagrees⟩
    | error e => exact ⟨rfl,h⟩
  · rw [h.lifecycle]
    cases t.lifecycle.shutdown with
    | ok next => exact ⟨rfl,rfl,h.workspace,h.exitCode,h.document⟩
    | error e => exact ⟨rfl,h⟩
  · exact ⟨by rw [query_eq h id hm],h⟩

theorem notification_concerns (engine : Engine) (hm : (Message.notification method params).concerns uri) :
    (s.notification engine method params).2 = (t.notification engine method params).2 ∧
      AgreesOn uri (s.notification engine method params).1 (t.notification engine method params).1 := by
  unfold notification
  by_cases he : method = "exit"
  · have hcode : s.leave.exitCode = t.leave.exitCode := by rw [leave, leave, h.lifecycle]
    simp only [he, if_true]
    exact ⟨trivial,rfl,h.workspace,hcode,h.document⟩
  rw [h.lifecycle]
  cases t.lifecycle.isActive with
  | false =>
    simp only [he, if_false, Bool.false_eq_true]
    exact ⟨trivial,h⟩
  | true =>
    have hresult := alike_documentNotification h engine hm
    simp only [he, if_false, if_true]
    generalize s.documentNotification engine method params = x at hresult ⊢
    generalize t.documentNotification engine method params = y at hresult ⊢
    cases hresult with
    | ok hagrees notices => exact ⟨rfl,hagrees⟩
    | error e => exact ⟨rfl,h⟩

end Alike

variable [Codec]

theorem step_concerns (h : AgreesOn uri s t) (hm : m.concerns uri) :
    (s.step engine m).2 = (t.step engine m).2 ∧ AgreesOn uri (s.step engine m).1 (t.step engine m).1 := by
  cases m with
  | request id method params =>
    obtain ⟨hresult,hagrees⟩ := request_concerns h id hm
    simp only [step, hresult]
    exact ⟨trivial,hagrees⟩
  | notification method params =>
    obtain ⟨hnotices,hagrees⟩ := notification_concerns h engine hm
    simp only [step, hnotices]
    exact ⟨trivial,hagrees⟩
  | response => exact ⟨rfl,h⟩

theorem Handled.elsewhere {notices : List Notice} (h : Handled engine s params method s' notices)
    (hm : (Message.notification method params).concerns uri = false) :
    s'.store.find? uri = s.store.find? uri ∧ notices.filterMap (Notice.about? uri) = [] := by
  have hne {other : Uri} (hother : params.documentUri? = some other) : uri ≠ other := by
    rintro rfl
    rw [Message.concerns, Message.documentUri?, hother] at hm
    split at hm <;> simp at hm
  have hpublish {store : Store} {other : Uri} (ho : uri ≠ other) :
      (publish { s with store } other).filterMap (Notice.about? uri) = [] := by
    unfold publish
    split
    · split
      · simp [Notice.about?, ho.symm]
      · rfl
    · rfl
  cases h with
  | unrecognized _ _ => exact ⟨rfl,rfl⟩
  | opened hp _ h =>
    have ho := hne (documentUri?_openParams hp)
    obtain ⟨d,rfl⟩ := Store.exists_insert_of_openDocument h
    exact ⟨Store.find?_insert_of_ne s.store ho d,hpublish ho⟩
  | changed hp h =>
    have ho := hne (documentUri?_changeParams hp)
    obtain ⟨d,rfl⟩ := Store.exists_insert_of_update h
    exact ⟨Store.find?_insert_of_ne s.store ho d,hpublish ho⟩
  | notOpen _ _ => exact ⟨rfl,rfl⟩
  | closed hp _ =>
    have ho := hne (documentUri?_closeParams hp)
    refine ⟨Store.find?_erase_of_ne s.store ho,?_⟩
    by_cases hpublishes : s.publishes <;> simp [hpublishes, Notice.about?, ho.symm]
  | ignored _ _ _ => exact ⟨rfl,rfl⟩

/-- A message about another document changes nothing as far as one can see from this one, and is answered with no
notice about it. -/
theorem Transition.elsewhere (h : Transition engine s m s' r) (hm : m.concerns uri = false) :
    AgreesOn uri s' s ∧ r.notices.filterMap (Notice.about? uri) = [] := by
  cases h with
  | queried _ _ => exact ⟨.refl uri s,rfl⟩
  | dropped _ _ => exact ⟨.refl uri s,rfl⟩
  | failed _ _ _ => exact ⟨.refl uri s,rfl⟩
  | handled _ _ h =>
    have hrest := documentNotification_eq_ok h
    obtain ⟨hdocument,hnotices⟩ := (handled_of_documentNotification h).elsewhere hm
    refine ⟨?_,hnotices⟩
    rw [hrest]
    exact ⟨rfl,rfl,rfl,hdocument⟩
  -- all others are about no document
  | _ => simp [Message.concerns, Message.documentUri?] at hm

theorem isolated_of_agreesOn (h : AgreesOn uri s t) (ms : List Message) :
    AgreesOn uri (s.run engine ms).1 (t.run engine (ms.filter (·.concerns uri))).1 ∧
    (s.exchanges engine ms).filter (·.1.concerns uri) = t.exchanges engine (ms.filter (·.concerns uri)) ∧
    (Exchange.notices (s.exchanges engine ms)).filterMap (Notice.about? uri) =
      (Exchange.notices (t.exchanges engine (ms.filter (·.concerns uri)))).filterMap (Notice.about? uri) := by
  induction ms generalizing s t with
  | nil => exact ⟨h,rfl,rfl⟩
  | cons m ms ih =>
    rw [run_cons, exchanges_cons, Exchange.notices_cons, List.filterMap_append]
    by_cases hm : m.concerns uri = true
    · obtain ⟨hreaction,hagrees⟩ := step_concerns h hm
      obtain ⟨hrun,hexchanges,hnotices⟩ := ih hagrees
      have hkept : (m :: ms).filter (·.concerns uri) = m :: ms.filter (·.concerns uri) :=
        List.filter_cons_of_pos hm
      have hexchange : ((m, (s.step engine m).2) :: (s.step engine m).1.exchanges engine ms).filter
          (·.1.concerns uri) = (m, (s.step engine m).2) :: _ := List.filter_cons_of_pos hm
      rw [hkept, hexchange, run_cons, exchanges_cons, Exchange.notices_cons, List.filterMap_append, hreaction,
        hexchanges, hnotices]
      exact ⟨hrun,rfl,rfl⟩
    · have helsewhere : m.concerns uri = false := by simpa using hm
      obtain ⟨hagrees,hnone⟩ := (transition_step engine s m).elsewhere helsewhere
      obtain ⟨hrun,hexchanges,hnotices⟩ := ih (hagrees.trans h)
      have hkept : (m :: ms).filter (·.concerns uri) = ms.filter (·.concerns uri) :=
        List.filter_cons_of_neg hm
      have hexchange : ((m, (s.step engine m).2) :: (s.step engine m).1.exchanges engine ms).filter
          (·.1.concerns uri) = _ := List.filter_cons_of_neg hm
      rw [hkept, hexchange, hnone, List.nil_append]
      exact ⟨hrun,hexchanges,hnotices⟩

/-- The messages about other documents may be left out of a run: it ends in the same lifecycle, with the same
workspace, exit code and document, does the same upon all messages that are left, and sends the same notices about
the document. -/
theorem documents_isolated (engine : Engine) (uri : Uri) (s : Session) (ms : List Message) :
    AgreesOn uri (s.run engine ms).1 (s.run engine (ms.filter (·.concerns uri))).1 ∧
    (s.exchanges engine ms).filter (·.1.concerns uri) = s.exchanges engine (ms.filter (·.concerns uri)) ∧
    (Exchange.notices (s.exchanges engine ms)).filterMap (Notice.about? uri) =
      (Exchange.notices (s.exchanges engine (ms.filter (·.concerns uri)))).filterMap (Notice.about? uri) :=
  isolated_of_agreesOn (.refl uri s) ms

/-- A close of another document is left out in either form of its params, and one that names none is kept. -/
example :
    let close := Message.notification "textDocument/didClose"
    let other := Json.string "untitled:b"
    ([close (.object [("textDocument", .object [("uri", other)])]), close (.array [.array [other]]),
      close (.object [("uri", other)])].map (·.concerns (.untitled ['a']))) = [false, false, true] := by
  decide +kernel

end Session

end SyntaxServer
