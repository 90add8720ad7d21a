import SyntaxServer.Proofs.Session.Run

/-! # The lifecycle along a run

Three kinds of exchange move the lifecycle, and none moves it back. Outside the initialized state every other
exchange leaves the session as it is and sends nothing, so the documents of a session that has been shut down or
left are never touched again.
-/
namespace SyntaxServer

namespace Lifecycle

/-- How far a session has come. -/
def stage : Lifecycle → Nat
  | uninitialized => 0
  | initialized => 1
  | shuttingDown => 2
  | exited => 3

/-- The exchanges that move a lifecycle, and where they move it. -/
inductive Moves (l : Lifecycle) (e : Exchange) : Lifecycle → Prop where
  | entered (hl : l = uninitialized) (he : e.Initializes) : Moves l e initialized
  | shutDown {id params} (hl : l = initialized) (he : e.1 = .request id "shutdown" params) :
    Moves l e shuttingDown
  | left {params} (he : e.1 = .notification "exit" params) : Moves l e exited

variable {l l' : Lifecycle} {e : Exchange}

theorem Moves.stage_le (h : Moves l e l') : l.stage ≤ l'.stage := by
  cases h with
  | entered hl _ => simp [hl, stage]
  | shutDown hl _ => simp [hl, stage]
  | left _ => cases l <;> simp [stage]

theorem Moves.unique {l₁ l₂ : Lifecycle} (h₁ : Moves l e l₁) (h₂ : Moves l e l₂) : l₁ = l₂ := by
  have hleft {params : Json} (he : e.1 = .notification "exit" params) : ∀ {l'}, Moves l e l' → l' = exited := by
    intro l' h
    cases h with
    | entered _ hi =>
      obtain ⟨_,_,_,hi,_⟩ := hi
      rw [he] at hi
      cases hi
    | shutDown _ hs =>
      rw [he] at hs
      cases hs
    | left _ => rfl
  cases h₁ with
  | entered hl _ =>
    cases h₂ with
    | entered _ _ => rfl
    | shutDown hl' _ => cases hl.symm.trans hl'
    | left he => exact hleft he (.entered hl ‹_›)
  | shutDown hl he =>
    cases h₂ with
    | entered hl' _ => cases hl.symm.trans hl'
    | shutDown _ _ => rfl
    | left he' => exact hleft he' (.shutDown hl he)
  | left he => exact (hleft he h₂).symm

theorem not_moves_of_request {id : Id} {method : String} {params : Json} {r : Reaction}
    (hi : ¬ Exchange.Initializes (.request id method params, r))
    (hs : method = "shutdown" → l ≠ initialized) : ¬ Moves l (.request id method params, r) l' := by
  intro h
  cases h with
  | entered _ he => exact hi he
  | shutDown hl he =>
    cases he
    exact hs rfl hl
  | left he => cases he

theorem not_moves_of_notification {method : String} {params : Json} {r : Reaction}
    (h : method ≠ "exit") : ¬ Moves l (.notification method params, r) l' := by
  intro hm
  cases hm with
  | entered _ he =>
    obtain ⟨_,_,_,he,_⟩ := he
    cases he
  | shutDown _ he => cases he
  | left he =>
    cases he
    exact h rfl

theorem not_moves_of_response {r : Reaction} : ¬ Moves l (.response, r) l' := by
  intro h
  cases h with
  | entered _ he =>
    obtain ⟨_,_,_,he,_⟩ := he
    cases he
  | shutDown _ he => cases he
  | left he => cases he

end Lifecycle

/-- A notification that opens, changes or closes a document. -/
def Message.ConcernsDocument (m : Message) : Prop :=
  ∃ method params, m = .notification method params ∧
    method ∈ ["textDocument/didOpen", "textDocument/didChange", "textDocument/didClose"]

namespace Session

/-- What the lifecycle lets an exchange do: where it moves the lifecycle, when it changes the documents, and that
it does nothing else outside the initialized state. -/
structure Gated (s : Session) (e : Exchange) (s' : Session) : Prop where
  initializes_once : e.Initializes → s.lifecycle = .uninitialized
  lifecycle_moves : ∀ l, s.lifecycle.Moves e l → s'.lifecycle = l
  lifecycle_stays : (∀ l, ¬ s.lifecycle.Moves e l) → s'.lifecycle = s.lifecycle
  stage_le : s.lifecycle.stage ≤ s'.lifecycle.stage
  store_changes : s'.store ≠ s.store → s.lifecycle = .initialized ∧ e.1.ConcernsDocument
  inert : s.lifecycle ≠ .initialized → (∀ l, ¬ s.lifecycle.Moves e l) →
    s' = s ∧ e.2.notices = [] ∧ e.2.walk = none

variable [Codec] {engine : Engine} {s s' : Session} {m : Message} {r : Reaction}

namespace Transition

theorem initializes_iff (h : Transition engine s m s' r) :
    Exchange.Initializes (m, r) ↔
      ∃ id params w, m = .request id "initialize" params ∧ s.enter params = .ok (s', w) := by
  constructor
  · rintro ⟨id,params,answer,hm,hr⟩
    cases h with
    | entered h =>
      cases hm
      exact ⟨_,_,_,rfl,h⟩
    | notEntered h => cases hr
    | shutDown _ => simp at hm
    | notShutDown _ => cases hr
    | queried hi _ =>
      cases hm
      exact absurd rfl hi
    | _ => cases hm
  · rintro ⟨id,params,w,hm,henter⟩
    cases h with
    | entered h => exact ⟨_,_,_,rfl,rfl⟩
    | notEntered h =>
      cases hm
      rw [henter] at h
      cases h
    | shutDown _ => simp at hm
    | notShutDown _ => simp at hm
    | queried hi _ =>
      cases hm
      exact absurd rfl hi
    | _ => cases hm

/-- An exchange moves the lifecycle to the next state, or it is of no kind that moves it and leaves it where it
is. -/
theorem moves_or_stays (h : Transition engine s m s' r) :
    s.lifecycle.Moves (m, r) s'.lifecycle ∨
      (∀ l, ¬ s.lifecycle.Moves (m, r) l) ∧ s'.lifecycle = s.lifecycle := by
  have hinit := h.initializes_iff
  cases h with
  | entered h =>
    obtain ⟨hl,_,rfl⟩ := enter_eq_ok h
    exact .inl (.entered hl (hinit.2 ⟨_,_,_,rfl,h⟩))
  | notEntered h =>
    refine .inr ⟨fun l => Lifecycle.not_moves_of_request ?_ (by simp),rfl⟩
    rintro ⟨_,_,_,_,hr⟩
    cases hr
  | shutDown h =>
    obtain ⟨hl,rfl⟩ := shutdown_eq_ok h
    exact .inl (.shutDown hl rfl)
  | notShutDown h =>
    refine .inr ⟨fun l => Lifecycle.not_moves_of_request ?_ ?_,rfl⟩
    · rintro ⟨_,_,_,_,hr⟩
      cases hr
    · rintro _ hl
      rw [hl] at h
      cases h
  | queried hi hs =>
    refine .inr ⟨fun l => Lifecycle.not_moves_of_request ?_ fun h => absurd h hs,rfl⟩
    rintro ⟨_,_,_,hm,_⟩
    cases hm
    exact hi rfl
  | left => exact .inl (.left rfl)
  | dropped he _ => exact .inr ⟨fun l => Lifecycle.not_moves_of_notification he,rfl⟩
  | handled he _ h =>
    rw [documentNotification_eq_ok h]
    exact .inr ⟨fun l => Lifecycle.not_moves_of_notification he,rfl⟩
  | failed he _ _ => exact .inr ⟨fun l => Lifecycle.not_moves_of_notification he,rfl⟩
  | answered => exact .inr ⟨fun l => Lifecycle.not_moves_of_response,rfl⟩

theorem stage_le (h : Transition engine s m s' r) : s.lifecycle.stage ≤ s'.lifecycle.stage := by
  rcases h.moves_or_stays with hmoves | ⟨_,hstays⟩
  · exact hmoves.stage_le
  · exact Nat.le_of_eq (congrArg Lifecycle.stage hstays.symm)

/-- Only notifications about documents touch the store, and only in an initialized session. -/
theorem store_changes (h : Transition engine s m s' r) (hs : s'.store ≠ s.store) :
    s.lifecycle = .initialized ∧ m.ConcernsDocument := by
  cases h with
  | entered h =>
    obtain ⟨_,_,rfl⟩ := enter_eq_ok h
    exact absurd rfl hs
  | @handled method params _ _ _ ha h =>
    refine ⟨by simpa [Lifecycle.isActive] using ha,method,params,rfl,?_⟩
    cases handled_of_documentNotification h with
    | opened | changed | closed => simp
    | unrecognized | notOpen | ignored => exact absurd rfl hs
  | _ => exact absurd rfl hs

theorem store_eq_of_ne (h : Transition engine s m s' r) (hs : s.lifecycle ≠ .initialized) :
    s'.store = s.store := by
  by_cases heq : s'.store = s.store
  · exact heq
  · exact absurd (h.store_changes heq).1 hs

theorem inert (h : Transition engine s m s' r) (hs : s.lifecycle ≠ .initialized)
    (hm : ∀ l, ¬ s.lifecycle.Moves (m, r) l) : s' = s ∧ r.notices = [] ∧ r.walk = none := by
  have hactive : s.lifecycle.isActive = false := by simp [Lifecycle.isActive, hs]
  cases h with
  | entered h =>
    obtain ⟨hl,_,_⟩ := enter_eq_ok h
    exact absurd (.entered hl ⟨_,_,_,rfl,rfl⟩) (hm .initialized)
  | shutDown h => exact absurd (shutdown_eq_ok h).1 hs
  | left => exact absurd (.left rfl) (hm .exited)
  | handled _ ha _ =>
    rw [hactive] at ha
    cases ha
  | failed _ ha _ =>
    rw [hactive] at ha
    cases ha
  | _ => exact ⟨rfl,rfl,rfl⟩

theorem gated (h : Transition engine s m s' r) : Gated s (m, r) s' where
  initializes_once he := by
    obtain ⟨_,_,_,_,henter⟩ := h.initializes_iff.1 he
    exact (enter_eq_ok henter).1
  lifecycle_moves l hl := by
    rcases h.moves_or_stays with hmoves | ⟨hnone,_⟩
    · exact hmoves.unique hl
    · exact absurd hl (hnone l)
  lifecycle_stays hnone := by
    rcases h.moves_or_stays with hmoves | ⟨_,hstays⟩
    · exact absurd hmoves (hnone _)
    · exact hstays
  stage_le := h.stage_le
  store_changes := h.store_changes
  inert := h.inert

end Transition

theorem stage_le_stage_run (ms : List Message) : s.lifecycle.stage ≤ (s.run engine ms).1.lifecycle.stage :=
  run_preserves (motive := fun t => s.lifecycle.stage ≤ t.lifecycle.stage) (Nat.le_refl _)
    (fun ht h => Nat.le_trans ht h.stage_le) ms

theorem store_run_of_stage_lt (hs : Lifecycle.initialized.stage < s.lifecycle.stage) (ms : List Message) :
    (s.run engine ms).1.store = s.store := by
  -- that the session stays beyond the initialized state is carried along
  refine (run_preserves (motive := fun t => t.store = s.store ∧
    Lifecycle.initialized.stage < t.lifecycle.stage) ⟨rfl,hs⟩ ?_ ms).1
  rintro t m t' r ⟨hstore,hstage⟩ h
  have hl : t.lifecycle ≠ .initialized := by
    intro hl
    rw [hl] at hstage
    exact Nat.lt_irrefl _ hstage
  exact ⟨(h.store_eq_of_ne hl).trans hstore,Nat.lt_of_lt_of_le hstage h.stage_le⟩

/-- Every exchange of every run does only what the lifecycle lets it do; along the run the lifecycle only goes
forward, and once the session is not initialized any more its documents are what they were. -/
theorem exchanges_gated (engine : Engine) (ms : List Message) :
    (∀ before e after, exchanges engine {} ms = before ++ e :: after →
      Gated (run engine {} (before.map (·.1))).1 e (run engine {} ((before ++ [e]).map (·.1))).1) ∧
    ∀ seen later, ms = seen ++ later →
      (run engine {} seen).1.lifecycle.stage ≤ (run engine {} ms).1.lifecycle.stage ∧
      (Lifecycle.initialized.stage < (run engine {} seen).1.lifecycle.stage →
        (run engine {} ms).1.store = (run engine {} seen).1.store) := by
  constructor
  · intro before e after h
    exact (transition_of_exchanges_eq h).gated
  · rintro seen later rfl
    rw [run_append]
    exact ⟨stage_le_stage_run later,fun hs => store_run_of_stage_lt hs later⟩

end Session

end SyntaxServer
