import SyntaxServer.Proofs.Session.Run
import SyntaxServer.Proofs.Store.Run

/-! # The documents of a session

All that a session does to its store is what the operations of a store do. So what these keep holds of the documents
in every state that a session comes to, as that each has the line table of its text.
-/
namespace SyntaxServer

/-- The line table of a document is that of its text. -/
def Document.IsIndexed (d : Document) : Prop := d.lines = LineTable.ofText d.text

theorem Store.Outcome.each_isIndexed {engine : Engine} {s s' : Store} {op : Operation}
    (hs : s.Each Document.IsIndexed) (h : Outcome engine s op s') : s'.Each Document.IsIndexed := by
  cases h with
  | opened _ => exact hs.insert rfl
  | revised _ _ _ _ => exact hs.insert rfl
  | closed => exact hs.erase _

namespace Session

variable [Codec] {engine : Engine} {s s' : Session} {m : Message} {r : Reaction} {method : String} {params : Json}

theorem Handled.outcome {notices : List Notice} (h : Handled engine s params method s' notices) :
    s'.store = s.store ∨ ∃ op, Store.Outcome engine s.store op s'.store := by
  cases h with
  | @opened p language store _ _ h =>
    exact Or.inr ⟨.openDocument p.uri language p.text p.version,Store.outcome_of_perform? h⟩
  | @changed p store _ h => exact Or.inr ⟨.update p.uri p.changes p.version,Store.outcome_of_perform? h⟩
  | closed _ _ => exact Or.inr ⟨_,.closed⟩
  | unrecognized _ _ => exact Or.inl rfl
  | notOpen _ _ => exact Or.inl rfl
  | ignored _ _ _ => exact Or.inl rfl

theorem Transition.outcome (h : Transition engine s m s' r) :
    s'.store = s.store ∨ ∃ op, Store.Outcome engine s.store op s'.store := by
  cases h with
  | entered h =>
    obtain ⟨_,_,rfl⟩ := enter_eq_ok h
    exact Or.inl rfl
  | handled _ _ h => exact (handled_of_documentNotification h).outcome
  | _ => exact Or.inl rfl

/-- A property of stores that holds of the empty store and is kept by every operation holds in every run. -/
theorem store_induction {motive : Store → Prop} (empty : motive {})
    (step : ∀ {s s' op}, motive s → Store.Outcome engine s op s' → motive s') (ms : List Message) :
    motive (run engine {} ms).1.store := by
  refine run_preserves (motive := fun s => motive s.store) empty ?_ ms
  intro s m s' r hs h
  rcases h.outcome with heq | ⟨op,hop⟩
  · rwa [heq]
  · exact step hs hop

theorem isIndexed_of_find? {ms : List Message} {uri : Uri} {d : Document}
    (h : (run engine {} ms).1.store.find? uri = some d) : d.IsIndexed :=
  store_induction (motive := Store.Each Document.IsIndexed) .empty Store.Outcome.each_isIndexed ms uri d h

end Session

end SyntaxServer
