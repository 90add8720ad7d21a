import SyntaxServer.Proofs.Session.Step

/-! # Runs of a session

A run is the list of its exchanges, each a message with the reaction to it. What every transition keeps is kept
by every run, so facts about runs are read off the transitions.
-/
namespace SyntaxServer

/-- A message and what a session did upon it. -/
abbrev Exchange := Message × Reaction

namespace Exchange

/-- A request to initialize is answered with a result. -/
def Initializes (e : Exchange) : Prop :=
  ∃ id params answer, e.1 = .request id "initialize" params ∧ e.2.reply = some (.outcome id (.ok answer))

/-- A request to initialize is answered with an error. -/
def IsRefused (e : Exchange) : Prop :=
  ∃ id params error, e.1 = .request id "initialize" params ∧ e.2.reply = some (.outcome id (.error error))

/-- The notices sent in some exchanges, in order. -/
def notices (es : List Exchange) : List Notice := es.flatMap (·.2.notices)

theorem notices_cons (m : Message) (r : Reaction) (es : List Exchange) :
    notices ((m, r) :: es) = r.notices ++ notices es :=
  List.flatMap_cons

theorem notices_append (es later : List Exchange) : notices (es ++ later) = notices es ++ notices later :=
  List.flatMap_append

theorem notices_singleton (m : Message) (r : Reaction) : notices [(m, r)] = r.notices := by
  simp [notices]

end Exchange

namespace Session

variable [Codec] (engine : Engine) (s : Session)

/-- The exchanges of a run. -/
def exchanges (ms : List Message) : List Exchange := ms.zip (s.run engine ms).2

theorem run_cons (m : Message) (ms : List Message) :
    s.run engine (m :: ms) = (((s.step engine m).1.run engine ms).1,
      (s.step engine m).2 :: ((s.step engine m).1.run engine ms).2) := rfl

theorem exchanges_cons (m : Message) (ms : List Message) :
    s.exchanges engine (m :: ms) =
      (m, (s.step engine m).2) :: (s.step engine m).1.exchanges engine ms := rfl

theorem run_append (ms later : List Message) :
    (s.run engine (ms ++ later)).1 = ((s.run engine ms).1.run engine later).1 := by
  induction ms generalizing s with
  | nil => rfl
  | cons m ms ih =>
    rw [List.cons_append, run_cons, run_cons]
    exact ih (s.step engine m).1

theorem map_fst_exchanges (ms : List Message) : (s.exchanges engine ms).map (·.1) = ms := by
  induction ms generalizing s with
  | nil => rfl
  | cons m ms ih => rw [exchanges_cons, List.map_cons, ih]

variable {engine s}

/-- What holds before a run and is kept by every transition holds after the run, of its exchanges and its last
state. -/
theorem run_induction {motive : List Exchange → Session → Prop} (start : motive [] s)
    (step : ∀ {es t m t' r}, motive es t → Transition engine t m t' r → motive (es ++ [(m, r)]) t')
    (ms : List Message) : motive (s.exchanges engine ms) (s.run engine ms).1 := by
  -- the induction goes along the run, so what was exchanged before the part that is left is carried along
  have along (ms : List Message) : ∀ (es : List Exchange) (t : Session), motive es t →
      motive (es ++ t.exchanges engine ms) (t.run engine ms).1 := by
    induction ms with
    | nil =>
      intro es t h
      have hnone : es ++ t.exchanges engine [] = es := List.append_nil es
      rw [hnone]
      exact h
    | cons m ms ih =>
      intro es t h
      have hstep := step h (transition_step engine t m)
      have hrest := ih _ _ hstep
      rw [List.append_assoc] at hrest
      exact hrest
  exact along ms [] s start

theorem run_preserves {motive : Session → Prop} (start : motive s)
    (step : ∀ {t m t' r}, motive t → Transition engine t m t' r → motive t') (ms : List Message) :
    motive (s.run engine ms).1 :=
  run_induction (motive := fun _ t => motive t) start step ms

/-- Every exchange of a run is a transition, from the state that the messages before it lead to. -/
theorem transition_of_exchanges_eq {ms : List Message} {before after : List Exchange} {e : Exchange}
    (h : s.exchanges engine ms = before ++ e :: after) :
    Transition engine (s.run engine (before.map (·.1))).1 e.1
      (s.run engine ((before ++ [e]).map (·.1))).1 e.2 := by
  induction before generalizing s ms with
  | nil =>
    cases ms with
    | nil => cases h
    | cons m ms =>
      cases h
      exact transition_step engine s m
  | cons e₀ before ih =>
    cases ms with
    | nil => cases h
    | cons m ms =>
      rw [exchanges_cons, List.cons_append, List.cons.injEq] at h
      obtain ⟨rfl,h⟩ := h
      exact ih h

end Session

end SyntaxServer
