import SyntaxServer.Proofs.Session.InPlace
import SyntaxServer.Proofs.Session.Lifecycle
import SyntaxServer.Proofs.Session.Params

/-! # The workspace of a run

The workspace is recorded when the session is initialized, and never again. A request to initialize that is
refused leaves the session as it is, so a run goes on as if it had not been sent.
-/
namespace SyntaxServer

section Records

variable [Codec]

/-- The workspace that some params ask for. -/
def Workspace.IsOf (w : Workspace) (params : Json) : Prop :=
  ∃ p, decodeParams "initialize" InitializeParams.ofJson params = .ok p ∧ ofParams p = .ok w

theorem Workspace.IsOf.unique {w w' : Workspace} {params : Json} (h : w.IsOf params) (h' : w'.IsOf params) :
    w = w' := by
  obtain ⟨p,hp,hw⟩ := h
  obtain ⟨p',hp',hw'⟩ := h'
  rw [hp] at hp'
  cases hp'
  rw [hw] at hw'
  cases hw'
  rfl

/-- A request to initialize asks for a workspace, and is answered with a result. -/
def Exchange.Records (e : Exchange) (w : Workspace) : Prop :=
  ∃ id params answer, e.1 = .request id "initialize" params ∧ e.2.reply = some (.outcome id (.ok answer)) ∧
    w.IsOf params

end Records

/-- Exchanges of which refused requests to initialize have been left out, at any places. -/
inductive Exchange.Thinned : List Exchange → List Exchange → Prop where
  | nil : Thinned [] []
  | keep (e : Exchange) {es kept : List Exchange} (h : Thinned es kept) : Thinned (e :: es) (e :: kept)
  | leaveOut {e : Exchange} {es kept : List Exchange} (he : e.IsRefused) (h : Thinned es kept) :
    Thinned (e :: es) kept

section Kinds

theorem kind_of_decodeParams [Codec] {α : Type} {method : String} {decode : Json.Decoder α} {params : Json} {e : Error}
    (h : decodeParams method decode params = .error e) : e.kind = "InvalidParams" := by
  obtain ⟨_,rfl⟩ := decodeParams_eq_error_iff.1 h
  rfl

theorem kind_of_rootOf {p : InitializeParams} {e : Error} (h : Workspace.rootOf p = .error e) :
    e.kind = "MissingRootPath" ∨ e.kind = "InvalidParams" := by
  unfold Workspace.rootOf at h
  split at h
  · cases h
  · split at h
    · cases h
      exact .inl rfl
    · split at h
      · cases h
        exact .inl rfl
      · split at h
        · cases h
        · cases h
          exact .inr rfl

theorem kind_of_ofOptions [Codec] {options : Option Json} {e : Error} (h : Settings.ofOptions options = .error e) :
    e.kind = "InvalidParams" := by
  unfold Settings.ofOptions at h
  split at h
  · cases h
  · cases h
  · split at h
    · cases h
    · cases h
      rfl

theorem kind_of_ofParams [Codec] {p : InitializeParams} {e : Error} (h : Workspace.ofParams p = .error e) :
    e.kind = "MissingRootPath" ∨ e.kind = "InvalidParams" := by
  rcases bind_eq_error_iff.1 h with h | ⟨_,_,h⟩
  · exact kind_of_rootOf h
  · rcases bind_eq_error_iff.1 h with h | ⟨_,_,h⟩
    · exact .inr (kind_of_ofOptions h)
    · cases h

theorem kind_of_lifecycle_enter {l : Lifecycle} {e : Error} (h : l.enter = .error e) :
    e.kind = "InvalidRequest" := by
  cases l <;> cases h <;> rfl

theorem kind_of_shutdown {l : Lifecycle} {e : Error} (h : l.shutdown = .error e) :
    e.kind = "ServerNotInitialized" ∨ e.kind = "InvalidRequest" := by
  cases l <;> cases h
  · exact .inl rfl
  · exact .inr rfl
  · exact .inr rfl

theorem kind_of_gate {l : Lifecycle} {method : String} {e : Error} (h : l.gate method = .error e) :
    e.kind = "ServerNotInitialized" ∨ e.kind = "InvalidRequest" := by
  cases l <;> cases h
  · exact .inl rfl
  · exact .inr rfl
  · exact .inr rfl

end Kinds

namespace Session

variable {engine : Engine} {s s' : Session} {m : Message} {r : Reaction}

/-- The workspace is known from when the session is initialized until it is left, and not before. -/
structure KnowsWorkspace (s : Session) : Prop where
  none_before : s.lifecycle = .uninitialized → s.workspace = none
  some_after : s.lifecycle = .initialized ∨ s.lifecycle = .shuttingDown → s.workspace.isSome

/-- A session that can be entered has no workspace yet, so recording it does not fail. -/
theorem KnowsWorkspace.recordWorkspace_eq_ok (hs : s.KnowsWorkspace) {next : Lifecycle}
    (h : s.lifecycle.enter = .ok next) (w : Workspace) :
    s.recordWorkspace w = .ok { s with workspace := some w } := by
  have hl {l next : Lifecycle} (h : l.enter = .ok next) : l = .uninitialized := by
    cases l <;> cases h
    rfl
  unfold recordWorkspace
  rw [hs.none_before (hl h)]

variable [Codec]

theorem enter_eq_ok_iff {params : Json} {w : Workspace} :
    s.enter params = .ok (s', w) ↔
      s.lifecycle = .uninitialized ∧ s.workspace = none ∧ w.IsOf params ∧
        s' = { s with lifecycle := .initialized, workspace := some w } := by
  constructor
  · intro h
    obtain ⟨hl,hnone,hs'⟩ := enter_eq_ok h
    obtain ⟨_,_,h⟩ := bind_eq_ok h
    obtain ⟨p,hp,h⟩ := bind_eq_ok h
    obtain ⟨w',hw,h⟩ := bind_eq_ok h
    obtain ⟨_,_,h⟩ := bind_eq_ok h
    cases h
    exact ⟨hl,hnone,⟨p,hp,hw⟩,hs'⟩
  · rintro ⟨hl,hnone,⟨p,hp,hw⟩,rfl⟩
    unfold enter recordWorkspace
    rw [hl, hp, hnone]
    change (Workspace.ofParams p >>= _) = _
    rw [hw]
    rfl

theorem kind_of_enter (hs : s.KnowsWorkspace) {params : Json} {e : Error} (h : s.enter params = .error e) :
    e.kind ≠ "Internal" := by
  rcases bind_eq_error_iff.1 h with h | ⟨next,hnext,h⟩
  · simp [kind_of_lifecycle_enter h]
  rcases bind_eq_error_iff.1 h with h | ⟨p,_,h⟩
  · simp [kind_of_decodeParams h]
  rcases bind_eq_error_iff.1 h with h | ⟨w,_,h⟩
  · rcases kind_of_ofParams h with h | h <;> simp [h]
  -- the last way to fail is that a workspace has been recorded before
  rw [hs.recordWorkspace_eq_ok hnext w, ok_bind] at h
  cases h

theorem kind_of_question {α β : Type} {method : String} {decode : Json.Decoder α} {params : Json} {uri : α → Uri}
    {find : α → Document → β} {answer : β → Answer} {e : Error}
    (h : (do
      let p ← decodeParams method decode params
      let found ← s.store.get (uri p) >>= fun d => .ok (find p d)
      .ok (answer found)) = .error e) : e.kind ≠ "Internal" := by
  rcases bind_eq_error_iff.1 h with h | ⟨p,_,h⟩
  · simp [kind_of_decodeParams h]
  rcases bind_eq_error_iff.1 h with h | ⟨_,_,h⟩
  · rcases bind_eq_error_iff.1 h with h | ⟨_,_,h⟩
    · obtain ⟨_,rfl⟩ := Store.get_eq_error_iff.1 h
      simp [Error.kind]
    · cases h
  · cases h

theorem kind_of_query {method : String} {params : Json} {e : Error} (h : s.query method params = .error e) :
    e.kind ≠ "Internal" := by
  rcases bind_eq_error_iff.1 h with h | ⟨_,_,h⟩
  · rcases kind_of_gate h with h | h <;> simp [h]
  split at h
  · exact kind_of_question h
  · exact kind_of_question h
  · cases h
    simp [Error.kind]

namespace Transition

theorem workspace_eq_of_not_initializes (h : Transition engine s m s' r)
    (hi : ¬ Exchange.Initializes (m, r)) : s'.workspace = s.workspace := by
  cases h with
  | entered h => exact absurd ⟨_,_,_,rfl,rfl⟩ hi
  | handled _ _ h => rw [documentNotification_eq_ok h]
  | _ => rfl

/-- A workspace is recorded by the exchange that asks for it, and then kept. -/
theorem workspace_eq_some_iff {w : Workspace} (h : Transition engine s m s' r) :
    s'.workspace = some w ↔ s.workspace = some w ∨ Exchange.Records (m, r) w := by
  by_cases hi : Exchange.Initializes (m, r)
  · obtain ⟨id,params,w₀,rfl,henter⟩ := h.initializes_iff.1 hi
    obtain ⟨_,hnone,hw₀,rfl⟩ := enter_eq_ok_iff.1 henter
    rw [hnone]
    constructor
    · rintro ⟨⟩
      obtain ⟨_,_,answer,hm,hr⟩ := hi
      cases hm
      exact .inr ⟨id,params,answer,rfl,hr,hw₀⟩
    · rintro (hw | ⟨_,_,_,hm,_,hw⟩)
      · cases hw
      · cases hm
        rw [hw₀.unique hw]
  · rw [h.workspace_eq_of_not_initializes hi]
    constructor
    · exact .inl
    · rintro (hw | ⟨id,params,answer,hm,hr,_⟩)
      · exact hw
      · exact absurd ⟨id,params,answer,hm,hr⟩ hi

theorem knowsWorkspace (h : Transition engine s m s' r) (hs : s.KnowsWorkspace) : s'.KnowsWorkspace := by
  cases h with
  | entered h =>
    obtain ⟨_,_,rfl⟩ := enter_eq_ok h
    exact ⟨by simp, by simp⟩
  | shutDown h =>
    obtain ⟨hl,rfl⟩ := shutdown_eq_ok h
    exact ⟨by simp, fun _ => hs.some_after (.inl hl)⟩
  | left => exact ⟨by simp [leave, Lifecycle.exit], by simp [leave, Lifecycle.exit]⟩
  | handled _ _ h =>
    rw [documentNotification_eq_ok h]
    exact ⟨hs.none_before, hs.some_after⟩
  | _ => exact hs

theorem kind_ne_internal (h : Transition engine s m s' r) (hs : s.KnowsWorkspace) {id : Id} {e : Error}
    (hr : r.reply = some (.outcome id (.error e))) : e.kind ≠ "Internal" := by
  cases h with
  | entered _ => cases hr
  | notEntered h =>
    cases hr
    exact kind_of_enter hs h
  | shutDown _ => cases hr
  | notShutDown h =>
    cases hr
    rcases kind_of_shutdown h with h | h <;> simp [h]
  | queried _ _ =>
    injection hr with hr
    injection hr with _ hr
    exact kind_of_query hr
  | _ => cases hr

theorem eq_of_isRefused (h : Transition engine s m s' r) (hr : Exchange.IsRefused (m, r)) : s' = s := by
  obtain ⟨_,_,_,hm,hr⟩ := hr
  cases h with
  | entered _ => cases hr
  | shutDown _ => cases hr
  | left => cases hm
  | handled _ _ _ => cases hm
  | _ => rfl

end Transition

theorem knowsWorkspace_run (engine : Engine) (ms : List Message) : (run engine {} ms).1.KnowsWorkspace :=
  run_preserves ⟨fun _ => rfl, by simp⟩ (fun hs h => h.knowsWorkspace hs) ms

theorem workspace_run_of_some {w : Workspace} (ms : List Message) (hw : s.workspace = some w) :
    (s.run engine ms).1.workspace = some w :=
  run_preserves (motive := fun t => t.workspace = some w) hw
    (fun ht h => h.workspace_eq_some_iff.2 (.inl ht)) ms

theorem workspace_run_eq_some_iff (engine : Engine) (ms : List Message) {w : Workspace} :
    (run engine {} ms).1.workspace = some w ↔ ∃ e ∈ exchanges engine {} ms, e.Records w := by
  apply run_induction (motive := fun es t => t.workspace = some w ↔ ∃ e ∈ es, e.Records w)
  · simp
  · intro es t m t' r ht h
    rw [h.workspace_eq_some_iff, ht]
    simp only [List.mem_append, List.mem_singleton, or_and_right, exists_or, exists_eq_left]

/-- Leaving out refused requests to initialize changes no other exchange and not the last state. -/
theorem run_of_thinned {ms : List Message} {kept : List Exchange}
    (h : Exchange.Thinned (s.exchanges engine ms) kept) :
    s.exchanges engine (kept.map (·.1)) = kept ∧
      (s.run engine (kept.map (·.1))).1 = (s.run engine ms).1 := by
  induction ms generalizing s kept with
  | nil =>
    cases h
    exact ⟨rfl,rfl⟩
  | cons m ms ih =>
    rw [exchanges_cons] at h
    cases h with
    | keep _ h =>
      obtain ⟨hexchanges,hrun⟩ := ih h
      rw [List.map_cons, exchanges_cons, run_cons, run_cons, hexchanges]
      exact ⟨rfl,hrun⟩
    | leaveOut he h =>
      have hsame := (transition_step engine s m).eq_of_isRefused he
      rw [run_cons]
      rw [hsame] at h ⊢
      exact ih h

theorem step_of_enter_error {params : Json} {e : Error} (h : s.enter params = .error e) (id : Id) :
    s.step engine (.request id "initialize" params) = (s, { reply := some (.outcome id (.error e)) }) := by
  simp [step, request, h]

theorem thinned_append {attempts : List Json} (h : ∀ p ∈ attempts, ∃ e, s.enter p = .error e) (id : Id)
    {ms : List Message} {kept : List Exchange} (hrest : Exchange.Thinned (s.exchanges engine ms) kept) :
    Exchange.Thinned (s.exchanges engine (attempts.map (.request id "initialize" ·) ++ ms)) kept := by
  induction attempts with
  | nil => exact hrest
  | cons p attempts ih =>
    obtain ⟨e,he⟩ := h p List.mem_cons_self
    have hlater := ih fun q hq => h q (List.mem_cons_of_mem p hq)
    rw [List.map_cons, List.cons_append, exchanges_cons, step_of_enter_error he]
    exact .leaveOut ⟨_,_,_,rfl,rfl⟩ hlater

end Session

namespace Desk

open Procedure

variable [Codec]

/-- Initializes the session where it stands: the workspace is written first and the lifecycle after it. -/
def enter (params : Json) : Procedure Desk Unit := do
  let next ← look (·.session.lifecycle.enter)
  let p ← decodeParams "initialize" InitializeParams.ofJson params
  let w ← Workspace.ofParams p
  let recorded ← look (·.session.recordWorkspace w)
  modify fun desk => { desk with session := recorded }
  modify fun desk => { desk with session := { desk.session with lifecycle := next } }
  send fun _ => [.log .info s!"initialized with workspace root {w.root}"]

theorem exec_enter (params : Json) (desk : Desk) :
    exec (enter params) desk = settle desk ((fun result =>
      desk.after (result.1, [.log .info s!"initialized with workspace root {result.2.root}"])) <$>
        desk.session.enter params) := by
  unfold enter Session.enter
  rw [map_bind]
  apply exec_bind_eq_settle (exec_look _ desk)
  intro next _
  rw [map_bind]
  apply exec_bind_eq_settle (exec_lift _ desk)
  intro p _
  rw [map_bind]
  apply exec_bind_eq_settle (exec_lift _ desk)
  intro w _
  rw [map_bind]
  apply exec_bind_eq_settle (exec_look _ desk)
  intro s _
  rfl

theorem exec_enter_eq_error_iff {params : Json} {desk desk' : Desk} {e : Error} :
    exec (enter params) desk = (.error e, desk') ↔ desk.session.enter params = .error e ∧ desk' = desk := by
  rw [exec_enter, settle_eq_error_iff, map_eq_error_iff]

end Desk

namespace Session

/-- After every run the workspace is known exactly from the initialization on and stays what it is, so that recording
it never fails and no request is answered with an internal error. A request to initialize that is refused leaves
things as they are in whatever state it finds them, and a run without such requests is the same in all else. -/
theorem workspace_recorded_once [Codec] (engine : Engine) (ms : List Message) :
    (run engine {} ms).1.KnowsWorkspace ∧
    (∀ w, (run engine {} ms).1.workspace = some w ↔ ∃ e ∈ exchanges engine {} ms, e.Records w) ∧
    (∀ later w, (run engine {} ms).1.workspace = some w →
      (run engine {} (ms ++ later)).1.workspace = some w) ∧
    (∀ next w, (run engine {} ms).1.lifecycle.enter = .ok next →
      ∃ s, (run engine {} ms).1.recordWorkspace w = .ok s) ∧
    (∀ e ∈ exchanges engine {} ms, ∀ id error, e.2.reply = some (.outcome id (.error error)) →
      error.kind ≠ "Internal") ∧
    (∀ desk desk' params e, Procedure.exec (Desk.enter params) desk = (.error e, desk') ↔
      desk.session.enter params = .error e ∧ desk' = desk) ∧
    ∀ kept, Exchange.Thinned (exchanges engine {} ms) kept →
      exchanges engine {} (kept.map (·.1)) = kept ∧
        (run engine {} (kept.map (·.1))).1 = (run engine {} ms).1 := by
  have hknown := knowsWorkspace_run engine ms
  refine ⟨hknown,fun w => workspace_run_eq_some_iff engine ms,?_,?_,?_,?_,?_⟩
  · intro later w
    rw [run_append]
    exact workspace_run_of_some later
  · intro next w h
    exact ⟨_,hknown.recordWorkspace_eq_ok h w⟩
  · intro e he id error hr
    obtain ⟨before,after,hsplit⟩ := List.append_of_mem he
    have hstep := transition_of_exchanges_eq hsplit
    exact hstep.kind_ne_internal (knowsWorkspace_run engine _) hr
  · intro desk desk' params e
    exact Desk.exec_enter_eq_error_iff
  · intro kept h
    exact run_of_thinned h

end Session

namespace Attempts

def capable : String × Json := ("capabilities", .object [])

/-- No params at all, no root, a root path that is not absolute, and options of the wrong form. -/
def refused : List Json :=
  [.null, .object [capable], .object [capable, ("rootPath", .string "w")],
    .object [capable, ("rootUri", .string "untitled:w"), ("initializationOptions", .bool true)]]

def accepted : Json := .object [capable, ("rootUri", .string "untitled:w")]

/-- A client that tries again and again, also when the session is initialized already. -/
def messages : List Message :=
  refused.map (.request .null "initialize" ·) ++
    [.request (.number 1) "initialize" accepted, .request (.number 2) "initialize" accepted,
      .request (.number 3) "shutdown" .null]

def direct : List Message := [.request (.number 1) "initialize" accepted, .request (.number 3) "shutdown" .null]

end Attempts

namespace Session

attribute [local instance] Codec.sections

/-- Of seven messages five are refused, for five different reasons, and might as well not have been sent. -/
theorem workspace_recorded_once_attempts :
    Exchange.Thinned (exchanges .tokenless {} Attempts.messages) (exchanges .tokenless {} Attempts.direct) ∧
    (run .tokenless {} Attempts.direct).1 = (run .tokenless {} Attempts.messages).1 ∧
    (run .tokenless {} Attempts.messages).1.lifecycle = .shuttingDown ∧
    (run .tokenless {} Attempts.messages).1.workspace.isSome := by
  have hrefused : ∀ p ∈ Attempts.refused, ∃ e, Session.enter {} p = .error e := by
    have hnone : Attempts.refused.all fun p => (Session.enter {} p).toOption.isNone := by decide +kernel
    intro p hp
    have h := List.all_eq_true.1 hnone p hp
    cases hp : Session.enter {} p with
    | ok _ => simp [hp] at h
    | error e => exact ⟨e,rfl⟩
  have haccepted : ∃ w, Session.enter {} Attempts.accepted =
      .ok ({ lifecycle := .initialized, workspace := some w }, w) := by
    have hsome : (Session.enter {} Attempts.accepted).toOption.isSome := by decide +kernel
    obtain ⟨⟨s',w⟩,hs'⟩ := Option.isSome_iff_exists.1 hsome
    have henter := toOption_eq_some_iff.1 hs'
    obtain ⟨_,_,rfl⟩ := enter_eq_ok henter
    exact ⟨w,henter⟩
  obtain ⟨w,hw⟩ := haccepted
  have hstep : (step .tokenless {} (.request (.number 1) "initialize" Attempts.accepted)).1 =
      { lifecycle := .initialized, workspace := some w } := by
    simp [step, request, hw]
  have hthinned : Exchange.Thinned (exchanges .tokenless {} Attempts.messages)
      (exchanges .tokenless {} Attempts.direct) := by
    apply thinned_append hrefused
    rw [Attempts.direct, exchanges_cons, exchanges_cons, hstep]
    apply Exchange.Thinned.keep
    have hagain : ∀ p ∈ [Attempts.accepted], ∃ e,
        Session.enter { lifecycle := .initialized, workspace := some w } p = .error e := by
      intro p _
      exact ⟨_,rfl⟩
    exact thinned_append hagain _ (.keep _ .nil)
  obtain ⟨_,_,_,_,_,_,hsame⟩ := workspace_recorded_once .tokenless Attempts.messages
  have hrun := (hsame _ hthinned).2
  rw [map_fst_exchanges] at hrun
  refine ⟨hthinned,hrun,?_⟩
  rw [← hrun, Attempts.direct, run_cons, hstep]
  exact ⟨rfl,rfl⟩

end Session

end SyntaxServer
