import SyntaxServer.Proofs.Server.Answers
import SyntaxServer.Proofs.Session.Workspace

/-! # The exit code of a connection

A connection succeeds when its client initializes the session, shuts it down and then leaves it; whatever else is
on the stream, and however the stream ends, does not count. The exit code is followed along the exchanges before
the first exit, and the documents, which everything else is about, are left out of the session.
-/
namespace SyntaxServer

namespace Message

/-- The messages among some reads, as far as the frames of the stream can be told apart. -/
def ofReads : List Frame.Read → List Message
  | [] => []
  | .body b :: reads => (parse? b).toList ++ ofReads reads
  | .failed (.messageTooLarge _ _) :: reads => ofReads reads
  | _ :: _ => []

/-- The messages on a stream. -/
def received (input : Bytes) : List Message := ofReads (Frame.readAll Frame.maxBody input)

def isExit : Message → Bool
  | notification method _ => method = "exit"
  | _ => false

/-- Requests to initialize and to shut down, and exit notifications. -/
def concernsLifecycle : Message → Bool
  | request _ method _ => method = "initialize" || method = "shutdown"
  | notification method _ => method = "exit"
  | response => false

/-- The messages up to the first exit, which is the last of them. -/
def upToExit : List Message → List Message
  | [] => []
  | m :: ms => m :: if m.isExit then [] else upToExit ms

variable {m : Message} {ms before : List Message}

theorem isExit_iff : m.isExit = true ↔ ∃ params, m = .notification "exit" params := by
  cases m <;> simp [isExit]

theorem concernsLifecycle_of_isExit (h : m.isExit = true) : m.concernsLifecycle = true := by
  obtain ⟨params,rfl⟩ := isExit_iff.1 h
  rfl

theorem forall_or_exists_exit (ms : List Message) :
    (∀ m ∈ ms, m.isExit = false) ∨
      ∃ before params after, ms = before ++ .notification "exit" params :: after ∧
        ∀ m ∈ before, m.isExit = false := by
  cases hfind : ms.find? (·.isExit) with
  | none => exact .inl (by simpa using hfind)
  | some m =>
    obtain ⟨hm,before,after,hsplit,hbefore⟩ := List.find?_eq_some_iff_append.1 hfind
    obtain ⟨params,rfl⟩ := isExit_iff.1 hm
    exact .inr ⟨before,params,after,hsplit,by simpa using hbefore⟩

theorem upToExit_of_forall (h : ∀ m ∈ ms, m.isExit = false) : upToExit ms = ms := by
  induction ms with
  | nil => rfl
  | cons m ms ih =>
    have hrest := ih fun m' hm' => h m' (List.mem_cons_of_mem m hm')
    simp [upToExit, h m List.mem_cons_self, hrest]

theorem upToExit_append (h : ∀ m ∈ before, m.isExit = false) (hm : m.isExit = true) (after : List Message) :
    upToExit (before ++ m :: after) = before ++ [m] := by
  induction before with
  | nil => simp [upToExit, hm]
  | cons m' before ih =>
    have hrest := ih fun n hn => h n (List.mem_cons_of_mem m' hn)
    simp [upToExit, h m' List.mem_cons_self, hrest]

theorem upToExit_filter (ms : List Message) :
    upToExit (ms.filter (·.concernsLifecycle)) = (upToExit ms).filter (·.concernsLifecycle) := by
  induction ms with
  | nil => rfl
  | cons m ms ih =>
    cases hm : m.isExit with
    | true => simp [upToExit, hm, concernsLifecycle_of_isExit hm]
    | false => cases hc : m.concernsLifecycle <;> simp [upToExit, hm, hc, ih]

end Message

open Message

/-- A session is initialized and later asked to shut down. -/
def Exchange.ShutDown (es : List Exchange) : Prop :=
  ∃ (e : Exchange) (id : Id) (params : Json) (r : Reaction), e.Initializes ∧
    [e, (.request id "shutdown" params, r)].Sublist es

namespace Exchange

variable {es : List Exchange} {e : Exchange}

theorem not_shutDown_of_forall (h : ∀ e ∈ es, ¬ e.Initializes) : ¬ ShutDown es := by
  rintro ⟨e,_,_,_,he,hsub⟩
  exact h e (hsub.subset List.mem_cons_self) he

theorem shutDown_append_singleton :
    ShutDown (es ++ [e]) ↔
      ShutDown es ∨ (∃ e ∈ es, e.Initializes) ∧ ∃ id params, e.1 = .request id "shutdown" params := by
  constructor
  -- reversed, the exchange at the end is the first one, and a sublist takes it or not
  · rintro ⟨e₀,id,params,r,he₀,hsub⟩
    rw [← List.reverse_sublist, List.reverse_append] at hsub
    cases hsub with
    | cons _ h => exact .inl ⟨e₀,id,params,r,he₀,List.reverse_sublist.1 h⟩
    | cons_cons _ h =>
      have hmem := List.mem_reverse.1 (h.subset List.mem_cons_self)
      exact .inr ⟨⟨e₀,hmem,he₀⟩,id,params,rfl⟩
  · rintro (⟨e₀,id,params,r,he₀,hsub⟩ | ⟨⟨e₀,hmem,he₀⟩,id,params,he⟩)
    · exact ⟨e₀,id,params,r,he₀,hsub.trans (List.sublist_append_left es [e])⟩
    · refine ⟨e₀,id,params,e.2,he₀,?_⟩
      rw [← he]
      exact (List.singleton_sublist.2 hmem).append (List.Sublist.refl [e])

end Exchange

namespace Lifecycle

/-- Where some exchanges without an exit lead. -/
inductive Follows (es : List Exchange) : Lifecycle → Prop where
  | uninitialized (h : ∀ e ∈ es, ¬ e.Initializes) : Follows es uninitialized
  | initialized (h : ∃ e ∈ es, e.Initializes) (hs : ¬ Exchange.ShutDown es) : Follows es initialized
  | shuttingDown (h : Exchange.ShutDown es) : Follows es shuttingDown

variable {es : List Exchange} {e : Exchange} {l l' : Lifecycle}

theorem Follows.of_moves (h : Follows es l) (hm : l.Moves e l') (he : e.1.isExit = false) :
    Follows (es ++ [e]) l' := by
  cases hm with
  | entered hl hi =>
    subst hl
    cases h with
    | uninitialized hnone =>
      refine .initialized ⟨e,by simp,hi⟩ fun hs => ?_
      rcases Exchange.shutDown_append_singleton.1 hs with hs | ⟨⟨e₀,hmem,he₀⟩,_⟩
      · exact Exchange.not_shutDown_of_forall hnone hs
      · exact hnone e₀ hmem he₀
  | shutDown hl hs =>
    subst hl
    cases h with
    | initialized hi _ => exact .shuttingDown (Exchange.shutDown_append_singleton.2 (.inr ⟨hi,_,_,hs⟩))
  | left hx =>
    rw [hx] at he
    cases he

theorem Follows.of_not_moves (h : Follows es l) (hm : ∀ l', ¬ l.Moves e l') : Follows (es ++ [e]) l := by
  cases h with
  | uninitialized hnone =>
    refine .uninitialized fun e' he' => ?_
    rcases List.mem_append.1 he' with he' | he'
    · exact hnone e' he'
    · rw [List.mem_singleton.1 he']
      exact fun hi => hm _ (.entered rfl hi)
  | initialized hi hs =>
    obtain ⟨e₀,hmem,he₀⟩ := hi
    refine .initialized ⟨e₀,List.mem_append_left _ hmem,he₀⟩ fun hs' => ?_
    rcases Exchange.shutDown_append_singleton.1 hs' with hs' | ⟨_,_,_,he⟩
    · exact hs hs'
    · exact hm _ (.shutDown rfl he)
  | shuttingDown hs => exact .shuttingDown (Exchange.shutDown_append_singleton.2 (.inl hs))

theorem Follows.exitCode_eq_zero_iff (h : Follows es l) : l.exitCode = 0 ↔ Exchange.ShutDown es := by
  cases h with
  | uninitialized hnone =>
    have hs := Exchange.not_shutDown_of_forall hnone
    simp [exitCode, hs]
  | initialized _ hs => simp [exitCode, hs]
  | shuttingDown hs => simp [exitCode, hs]

theorem exitCode_eq_zero_or_one (l : Lifecycle) : l.exitCode = 0 ∨ l.exitCode = 1 := by
  cases l <;> simp [exitCode]

end Lifecycle

namespace Session

variable {engine : Engine} {s s' : Session} {m : Message} {r : Reaction}

/-- The session without its documents. -/
def bare (s : Session) : Session := { s with store := {} }

@[simp] theorem lifecycle_bare : s.bare.lifecycle = s.lifecycle := rfl

@[simp] theorem workspace_bare : s.bare.workspace = s.workspace := rfl

variable [Codec]

theorem Transition.exitCode_eq (h : Transition engine s m s' r) (hm : m.isExit = false) :
    s'.exitCode = s.exitCode := by
  cases h with
  | entered h =>
    obtain ⟨_,_,rfl⟩ := enter_eq_ok h
    rfl
  | left => cases hm
  | handled _ _ h => rw [documentNotification_eq_ok h]
  | _ => rfl

/-- Without an exit there is no exit code, and the lifecycle follows from the exchanges. -/
theorem follows_run {ms : List Message} (hms : ∀ m ∈ ms, m.isExit = false) :
    (run engine {} ms).1.exitCode = none ∧
      (run engine {} ms).1.lifecycle.Follows (exchanges engine {} ms) := by
  have hes : ∀ e ∈ exchanges engine {} ms, e.1.isExit = false := by
    intro e he
    apply hms
    rw [← map_fst_exchanges engine {} ms]
    exact List.mem_map_of_mem he
  revert hes
  apply run_induction (motive := fun es t => (∀ e ∈ es, e.1.isExit = false) →
    t.exitCode = none ∧ t.lifecycle.Follows es)
  · intro _
    exact ⟨rfl,.uninitialized (by simp)⟩
  · intro es t m t' r ht h hes
    obtain ⟨hcode,hfollows⟩ := ht fun e he => hes e (List.mem_append_left _ he)
    have hm : m.isExit = false := hes (m, r) (by simp)
    refine ⟨(h.exitCode_eq hm).trans hcode,?_⟩
    rcases h.moves_or_stays with hmoves | ⟨hnone,hstays⟩
    · exact hfollows.of_moves hmoves hm
    · rw [hstays]
      exact hfollows.of_not_moves hnone

theorem run_append_exit (ms : List Message) (params : Json) :
    (run engine s (ms ++ [.notification "exit" params])).1 = (run engine s ms).1.leave := by
  rw [run_append]
  rfl

theorem enter_bare (params : Json) :
    s.bare.enter params = (fun result => (result.1.bare, result.2)) <$> s.enter params := by
  have hrecord (w : Workspace) : s.bare.recordWorkspace w = bare <$> s.recordWorkspace w := by
    unfold recordWorkspace
    rw [workspace_bare]
    cases s.workspace <;> rfl
  simp only [enter, lifecycle_bare, hrecord, map_bind, bind_map_left]
  rfl

/-- What concerns the lifecycle does the same without the documents, whatever the grammars. -/
theorem bare_step_of_concernsLifecycle (hm : m.concernsLifecycle = true) (engine' : Engine) :
    (s.step engine m).1.bare = (s.bare.step engine' m).1 := by
  cases m with
  | request id method params =>
    simp only [concernsLifecycle, Bool.or_eq_true, decide_eq_true_eq] at hm
    rcases hm with rfl | rfl
    · simp only [step, request, enter_bare]
      cases s.enter params <;> rfl
    · simp only [step, request, lifecycle_bare]
      cases s.lifecycle.shutdown <;> rfl
  | notification method params =>
    simp only [concernsLifecycle, decide_eq_true_eq] at hm
    subst hm
    rfl
  | response => cases hm

theorem Transition.bare_eq (h : Transition engine s m s' r) (hm : m.concernsLifecycle = false) :
    s'.bare = s.bare := by
  cases h with
  | entered _ => simp [concernsLifecycle] at hm
  | shutDown _ => simp [concernsLifecycle] at hm
  | left => simp [concernsLifecycle] at hm
  | handled _ _ h =>
    rw [documentNotification_eq_ok h]
    rfl
  | _ => rfl

theorem bare_run (engine' : Engine) (s : Session) (ms : List Message) :
    (s.run engine ms).1.bare = (s.bare.run engine' (ms.filter (·.concernsLifecycle))).1 := by
  induction ms generalizing s with
  | nil => rfl
  | cons m ms ih =>
    have hrest := ih (s.step engine m).1
    rw [run_cons]
    cases hm : m.concernsLifecycle with
    | true =>
      rw [List.filter_cons_of_pos hm, run_cons, ← bare_step_of_concernsLifecycle hm engine']
      exact hrest
    | false =>
      rw [(transition_step engine s m).bare_eq hm] at hrest
      rw [List.filter_cons_of_neg (by simp [hm])]
      exact hrest

end Session

namespace Connection

variable [Codec] {engine : Engine} {c : Connection}

theorem session_foldl_accept (hended : c.ended = false) (hexited : c.session.lifecycle ≠ .exited)
    (reads : List Frame.Read) :
    (reads.foldl (·.accept engine ·) c).session = (c.session.run engine (upToExit (ofReads reads))).1 := by
  -- the connection goes on as long as its session is not left, so both facts are carried along
  fun_induction ofReads reads generalizing c with
  | case1 => rfl
  | case2 b reads ih =>
    have hstep : c.accept engine (.body b) = c.receive engine b := by simp [accept, hended]
    rw [List.foldl_cons, hstep, receive]
    cases Message.parse? b with
    | none => exact ih hended hexited
    | some m =>
      have hexit := (Session.transition_step engine c.session m).lifecycle_eq_exited_iff hexited
      rw [← isExit_iff] at hexit
      simp only [Option.toList_some, List.singleton_append, upToExit, Session.run_cons]
      cases hm : m.isExit with
      | true =>
        rw [foldl_accept_of_ended engine (by simp [Session.isExited, hexit, hm])]
        rfl
      | false =>
        have hnot : (c.session.step engine m).1.lifecycle ≠ .exited := by simp [hexit, hm]
        exact ih (by simp [Session.isExited, hnot]) hnot
  | case3 length max reads ih =>
    have hstep : c.accept engine (.failed (.messageTooLarge length max)) = c.send (.reply .oversized) := by
      simp [accept, hended]
    rw [List.foldl_cons, hstep]
    exact ih hended hexited
  | case4 read reads hbody hlarge =>
    have hstep : c.accept engine read = { c with ended := true } := by simp [accept, hended]
    rw [List.foldl_cons, hstep, foldl_accept_of_ended engine rfl]
    rfl

end Connection

section Serving

variable [Codec] (engine : Engine) {input : Bytes}

theorem session_serve (input : Bytes) :
    (serve engine input).session = (Session.run engine {} (upToExit (received input))).1 :=
  Connection.session_foldl_accept rfl (by simp) _

theorem exitCode_serve_of_forall (h : ∀ m ∈ received input, m.isExit = false) :
    (serve engine input).exitCode = 1 := by
  rw [Connection.exitCode, session_serve, upToExit_of_forall h, Session.exitStatus, (Session.follows_run h).1]
  rfl

theorem exitCode_serve_of_append {before after : List Message} {params : Json}
    (h : received input = before ++ .notification "exit" params :: after)
    (hbefore : ∀ m ∈ before, m.isExit = false) :
    (serve engine input).exitCode = (Session.run engine {} before).1.lifecycle.exitCode := by
  rw [Connection.exitCode, session_serve, h, upToExit_append hbefore rfl, Session.run_append_exit]
  rfl

theorem exitCode_serve_eq_bare (engine' : Engine) (input : Bytes) :
    (serve engine input).exitCode =
      (Session.run engine' {} (upToExit ((received input).filter (·.concernsLifecycle)))).1.exitStatus := by
  have hbare : (serve engine input).session.bare =
      (Session.run engine' {} ((upToExit (received input)).filter (·.concernsLifecycle))).1 := by
    rw [session_serve]
    exact Session.bare_run engine' {} _
  rw [upToExit_filter, ← hbare]
  rfl

/-- The exit code is zero or one, and zero exactly if the first exit comes after a request to shut down a session
that has been initialized; it is one if the stream ends or breaks off before an exit. Nothing else on the stream
matters to it. -/
theorem serve_exitCode (input : Bytes) :
    ((serve engine input).exitCode = 0 ∨ (serve engine input).exitCode = 1) ∧
    ((serve engine input).exitCode = 0 ↔
      ∃ before params after, received input = before ++ .notification "exit" params :: after ∧
        (∀ m ∈ before, m.isExit = false) ∧ Exchange.ShutDown (Session.exchanges engine {} before)) ∧
    ((∀ m ∈ received input, m.isExit = false) → (serve engine input).exitCode = 1) ∧
    ∀ engine' input', (received input').filter (·.concernsLifecycle) =
        (received input).filter (·.concernsLifecycle) →
      (serve engine' input').exitCode = (serve engine input).exitCode := by
  have hcases := forall_or_exists_exit (received input)
  refine ⟨?_,?_,exitCode_serve_of_forall engine,?_⟩
  · rcases hcases with hnone | ⟨_,_,_,hsplit,hbefore⟩
    · exact .inr (exitCode_serve_of_forall engine hnone)
    · rw [exitCode_serve_of_append engine hsplit hbefore]
      exact Lifecycle.exitCode_eq_zero_or_one _
  · constructor
    · intro hzero
      rcases hcases with hnone | ⟨before,params,after,hsplit,hbefore⟩
      · rw [exitCode_serve_of_forall engine hnone] at hzero
        cases hzero
      · rw [exitCode_serve_of_append engine hsplit hbefore] at hzero
        exact ⟨before,params,after,hsplit,hbefore,(Session.follows_run hbefore).2.exitCode_eq_zero_iff.1 hzero⟩
    · rintro ⟨before,params,after,hsplit,hbefore,hshut⟩
      rw [exitCode_serve_of_append engine hsplit hbefore]
      exact (Session.follows_run hbefore).2.exitCode_eq_zero_iff.2 hshut
  · intro engine' input' h
    rw [exitCode_serve_eq_bare engine engine, exitCode_serve_eq_bare engine' engine, h]

end Serving

theorem Message.received_flatMap_write {bodies : List Bytes} (h : ∀ b ∈ bodies, b.length ≤ Frame.maxBody) :
    received (bodies.flatMap Frame.write) = bodies.filterMap parse? := by
  have hsize : ∀ b ∈ bodies, b.length < 2 ^ 64 := by
    intro b hb
    have hmax : Frame.maxBody < 2 ^ 64 := by decide
    exact Nat.lt_of_le_of_lt (h b hb) hmax
  rw [received, Frame.readAll_flatMap_write Frame.maxBody hsize]
  clear hsize
  induction bodies with
  | nil => rfl
  | cons b bodies ih =>
    have hread : Frame.reading Frame.maxBody b = .body b := by
      simp [Frame.reading, Nat.not_lt.2 (h b List.mem_cons_self)]
    have hrest := ih fun b' hb' => h b' (List.mem_cons_of_mem b hb')
    rw [List.map_cons, List.cons_append, hread, ofReads, hrest]
    cases hm : parse? b <;> simp [hm]

section Conversation

attribute [local instance] Codec.sections

/-- It is the exit that counts: the same conversation without it fails. -/
theorem serve_exitCode_conversation :
    (serve Engine.tokenless (Conversation.bodies.flatMap Frame.write)).exitCode = 0 ∧
    (serve Engine.tokenless ((Conversation.bodies.take 3).flatMap Frame.write)).exitCode = 1 := by
  have hfit : ∀ b ∈ Conversation.bodies, b.length ≤ Frame.maxBody := by decide +kernel
  have hall := received_flatMap_write hfit
  have hcut := received_flatMap_write fun b hb => hfit b (List.mem_of_mem_take (i := 3) hb)
  have hstray : parse? [120] = none := rfl
  simp only [Conversation.bodies, List.take, List.filterMap_cons, List.filterMap_nil, hstray,
    Conversation.parse?_greeting, Conversation.parse?_shutdown, Conversation.parse?_exit] at hall hcut
  have hinit : Exchange.Initializes (.request (.number 1) "initialize" Conversation.workspaceParams,
      (Session.step Engine.tokenless {} (.request (.number 1) "initialize" Conversation.workspaceParams)).2) := by
    simp [Exchange.Initializes, Session.step, Session.request, Conversation.enter_workspaceParams]
  constructor
  · apply (serve_exitCode _ _).2.1.2
    exact ⟨[_, _],.null,_,hall,by simp [Message.isExit],_,_,_,_,hinit,List.Sublist.refl _⟩
  · apply (serve_exitCode _ _).2.2.1
    intro m hm
    simp only [Conversation.bodies, List.take, hcut, List.mem_cons, List.not_mem_nil, or_false] at hm
    rcases hm with rfl | rfl <;> rfl

end Conversation

end SyntaxServer
