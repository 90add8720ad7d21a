import SyntaxServer.Proofs.Store.Batch
import SyntaxServer.Proofs.Store.Refusal

/-! # Operations in place

A store that is shared is worked on in place: fields are written one after the other, and what has been written
when an operation fails stays written. All operations look at everything first and write last, so in place they
do the same as the functions that give a new store or none.
-/
namespace SyntaxServer

/-- Work on a state in place. An error takes nothing back. -/
abbrev Procedure (σ α : Type) := ExceptT Error (StateM σ) α

namespace Procedure

variable {σ α β : Type}

/-- What is found in a state, or an error where it has to be there and is not. -/
def look (f : σ → Except Error α) : Procedure σ α := do f (← get)

/-- How a procedure ends, and the state in which it leaves things. -/
def exec (p : Procedure σ α) (s : σ) : Except Error α × σ := p.run.run s

/-- How a function ends whose result is taken over as a whole or not at all. -/
def settle (s : σ) : Except Error σ → Except Error Unit × σ
  | .ok s' => (.ok (), s')
  | .error e => (.error e, s)

theorem exec_bind (p : Procedure σ α) (f : α → Procedure σ β) (s : σ) :
    exec (p >>= f) s =
      match exec p s with
      | (.ok a, s') => exec (f a) s'
      | (.error e, s') => (.error e, s') := by
  -- the two layers of the monad are opened here and nowhere after
  change (ExceptT.bindCont f (p.run.run s).1).run (p.run.run s).2 = _
  unfold exec
  rcases p.run.run s with ⟨_ | _,_⟩ <;> rfl

@[simp] theorem exec_look (f : σ → Except Error α) (s : σ) : exec (look f) s = (f s, s) := rfl

@[simp] theorem exec_modify (f : σ → σ) (s : σ) : exec (modify f) s = (.ok (), f s) := rfl

@[simp] theorem exec_lift (x : Except Error α) (s : σ) : exec (liftM x : Procedure σ α) s = (x, s) := rfl

theorem settle_eq_error_iff {s s' : σ} {x : Except Error σ} {e : Error} :
    settle s x = (.error e, s') ↔ x = .error e ∧ s' = s := by
  cases x <;> simp [settle, eq_comm]

/-- What is looked at before anything is written may be looked at in a function as well. -/
theorem exec_bind_eq_settle {p : Procedure σ α} {s : σ} {x : Except Error α} (hp : exec p s = (x, s))
    {f : α → Procedure σ Unit} {g : α → Except Error σ}
    (h : ∀ a, x = .ok a → exec (f a) s = settle s (g a)) : exec (p >>= f) s = settle s (x >>= g) := by
  rw [exec_bind, hp]
  cases x with
  | error e => rfl
  | ok a => exact h a rfl

theorem exec_tryCatch (p : Procedure σ α) (f : Error → Procedure σ α) (s : σ) :
    exec (tryCatch p f) s =
      match exec p s with
      | (.ok a, s') => (.ok a, s')
      | (.error e, s') => exec (f e) s' := by
  unfold exec
  simp only [tryCatch, tryCatchThe, MonadExceptOf.tryCatch, ExceptT.tryCatch, ExceptT.run, ExceptT.mk,
    StateT.run, bind, StateT.bind]
  rcases p s with ⟨_ | _,_⟩ <;> rfl

end Procedure

namespace Store

open Procedure

variable (engine : Engine) (uri : Uri)

/-- Writes into a document that is open. -/
def adjust (f : Document → Document) : Procedure Store Unit :=
  modify fun s => (s.find? uri).elim s fun d => s.insert uri (f d)

/-- The fields of a document are written one by one. -/
def commit (text : Text) (tree : Tree) (version : Int) : Procedure Store Unit := do
  adjust uri ({ · with lines := LineTable.ofText text })
  adjust uri ({ · with text })
  adjust uri ({ · with tree })
  adjust uri ({ · with version })

def reviseInPlace (version : Int) (next : Document → Except Error Draft) : Procedure Store Unit := do
  let d ← look (·.get uri)
  d.checkNewer uri version
  let draft ← next d
  let tree ← parse uri engine d.language draft.text draft.hint
  commit uri draft.text tree version

/-- An operation in place. A lone change of a span is prepared first, as an edit. -/
def Operation.inPlace : Operation → Procedure Store Unit
  | openDocument uri language text version => do
    let tree ← parse uri engine language text none
    modify (·.insert uri (.ofTree language text tree version))
  | update uri [⟨some span, r⟩] version => do
    let (e, text) ← look (·.prepare uri span r)
    reviseInPlace engine uri version fun d => (edit uri e text version).draft d
  | update uri changes version =>
    reviseInPlace engine uri version fun d => (update uri changes version).draft d
  | edit uri e text version => reviseInPlace engine uri version fun d => (edit uri e text version).draft d
  | replace uri text version => reviseInPlace engine uri version fun d => (replace uri text version).draft d
  | close uri => modify (·.erase uri)

variable {engine uri} {s : Store} {d : Document}

theorem filter_eq_self_of_lookup {es : List (Uri × Document)} (h : lookup uri es = none) :
    es.filter (·.1 ≠ uri) = es := by
  induction es with
  | nil => rfl
  | cons e es ih =>
    by_cases he : e.1 = uri
    · simp [lookup, he] at h
    · simp only [lookup, he, if_false] at h
      rw [List.filter_cons_of_pos (by simpa using he), ih h]

theorem erase_of_find?_eq_none (missing : s.find? uri = none) : s.erase uri = s := by
  rw [erase, filter_eq_self_of_lookup missing]

theorem exec_adjust (found : s.find? uri = some d) (f : Document → Document) :
    exec (adjust uri f) s = (.ok (), s.insert uri (f d)) := by
  rw [adjust, exec_modify, found]
  rfl

theorem exec_commit (found : s.find? uri = some d) (text : Text) (tree : Tree) (version : Int) :
    exec (commit uri text tree version) s = (.ok (), s.insert uri (d.revise text tree version)) := by
  simp only [commit, exec_bind, exec_adjust found, exec_adjust (find?_insert_self ..), insert_insert]
  rfl

theorem exec_reviseInPlace (s : Store) (version : Int) (next : Document → Except Error Draft) :
    exec (reviseInPlace engine uri version next) s = settle s (s.revise uri engine version next) := by
  apply exec_bind_eq_settle (exec_look _ s)
  intro d hd
  apply exec_bind_eq_settle (exec_lift _ s)
  intro _ _
  apply exec_bind_eq_settle (exec_lift _ s)
  intro draft _
  apply exec_bind_eq_settle (exec_lift _ s)
  intro tree _
  -- nothing is left that can fail, and only now something is written
  exact exec_commit (get_eq_ok_iff.1 hd) draft.text tree version

/-- In place an operation leads to the same store, and if it fails it leaves the store as it was. -/
theorem exec_inPlace (engine : Engine) (s : Store) (op : Operation) :
    exec (op.inPlace engine) s = settle s (s.perform? engine op) := by
  have hedit (uri : Uri) (e : Edit) (text : Text) (version : Int) :
      exec (reviseInPlace engine uri version fun d => Operation.draft d (.edit uri e text version)) s =
        settle s (s.edit uri engine e text version) := by
    rw [exec_reviseInPlace, edit_eq_revise]
    rfl
  unfold Operation.inPlace
  split
  · exact exec_bind_eq_settle (exec_lift _ s) fun tree _ => rfl
  · next uri span r version =>
    -- the change is prepared before the versions are compared, and then it is an edit like any other
    apply exec_bind_eq_settle (exec_look _ s)
    rintro ⟨e,text⟩ _
    exact hedit uri e text version
  · next uri changes version hlone =>
    have ready (d : Document) : Operation.Ready d (.update uri changes version) :=
      ready_update fun span r h => absurd h (hlone span r)
    rw [exec_reviseInPlace, perform?_eq_revise rfl fun d _ => ready d]
  · next uri e text version => exact hedit uri e text version
  · next uri text version => exact exec_reviseInPlace s version _
  · rfl

end Store

end SyntaxServer
