import SyntaxServer.Proofs.Store.Update

/-! # Runs of a store

The operations that change a store, one after the other. An operation that fails leaves the store as it
was, and one that succeeds puts in one document or takes one out; every fact about runs is read off this.
-/
namespace SyntaxServer.Store

inductive Operation where
  | openDocument (uri : Uri) (language : Language) (text : Text) (version : Int)
  | edit (uri : Uri) (edit : Edit) (text : Text) (version : Int)
  | update (uri : Uri) (changes : List Change) (version : Int)
  | replace (uri : Uri) (text : Text) (version : Int)
  | close (uri : Uri)
deriving DecidableEq, Repr

/-- The document that an operation revises, and the version it brings it to. -/
def Operation.revision? : Operation → Option (Uri × Int)
  | edit uri _ _ version => some (uri, version)
  | update uri _ version => some (uri, version)
  | replace uri _ version => some (uri, version)
  | openDocument _ _ _ _ => none
  | close _ => none

def perform? (engine : Engine) (s : Store) : Operation → Except Error Store
  | .openDocument uri language text version => s.openDocument uri engine language text version
  | .edit uri edit text version => s.edit uri engine edit text version
  | .update uri changes version => s.update uri engine changes version
  | .replace uri text version => s.replace uri engine text version
  | .close uri => .ok (s.close uri).2

/-- The store after an operation, which is as it was if the operation failed. -/
def perform (engine : Engine) (s : Store) (op : Operation) : Store :=
  (s.perform? engine op).toOption.getD s

def run (engine : Engine) (s : Store) (ops : List Operation) : Store :=
  ops.foldl (perform engine) s

/-- What operations that succeed do: one opens a document, one revises a document that is open and older,
one closes a document. -/
inductive Outcome (engine : Engine) (s : Store) : Operation → Store → Prop
  | opened {uri : Uri} {language : Language} {text : Text} {version : Int} {tree : Tree}
      (parsed : engine.parse? language text none = some tree) :
      Outcome engine s (.openDocument uri language text version)
        (s.insert uri (.ofTree language text tree version))
  | revised {op : Operation} {uri : Uri} {version : Int} {d : Document} {text : Text}
      {hint : Option Hint} {tree : Tree} (revises : op.revision? = some (uri, version))
      (found : s.find? uri = some d) (newer : d.version < version)
      (parsed : engine.parse? d.language text hint = some tree) :
      Outcome engine s op (s.insert uri (.ofTree d.language text tree version))
  | closed {uri : Uri} : Outcome engine s (.close uri) (s.erase uri)

/-- All open documents have a property. -/
def Each (p : Document → Prop) (s : Store) : Prop := ∀ uri d, s.find? uri = some d → p d

section Each

variable {p : Document → Prop} {s : Store}

theorem Each.empty : Each p {} := fun _ _ h => by cases h

theorem Each.insert (hs : s.Each p) {uri : Uri} {d : Document} (hd : p d) : (s.insert uri d).Each p := by
  intro other e he
  by_cases ho : other = uri
  · subst ho
    rw [find?_insert_self] at he
    exact Option.some.inj he ▸ hd
  · rw [find?_insert_of_ne s ho] at he
    exact hs other e he

theorem Each.erase (hs : s.Each p) (uri : Uri) : (s.erase uri).Each p := by
  intro other e he
  by_cases ho : other = uri
  · subst ho
    rw [find?_erase_self] at he
    cases he
  · rw [find?_erase_of_ne s ho] at he
    exact hs other e he

end Each

variable {engine : Engine} {s s' : Store}

theorem outcome_of_updated? {op : Operation} {uri : Uri} {changes : List Change} {version : Int}
    (hop : op.revision? = some (uri, version))
    (h : s.updated? uri engine changes version = some s') : Outcome engine s op s' := by
  obtain ⟨d,draft,tree,hd,hv,_,htree,rfl⟩ := updated?_eq_some_iff.mp h
  exact .revised hop hd hv htree

theorem outcome_of_perform? {op : Operation} (h : s.perform? engine op = .ok s') :
    Outcome engine s op s' := by
  rw [← toOption_eq_some_iff] at h
  cases op with
  | openDocument uri language text version =>
    simp only [perform?, openDocument, toOption_bind, toOption_parse, Option.bind_eq_some_iff,
      toOption_pure, Option.some.injEq] at h
    obtain ⟨tree,htree,rfl⟩ := h
    exact .opened htree
  | edit uri edit text version =>
    simp only [perform?, Store.edit, toOption_bind, toOption_get, Document.toOption_checkNewer,
      toOption_parse, Option.bind_eq_some_iff, toOption_pure, Option.some.injEq] at h
    obtain ⟨d,hd,_,hv,_,_,tree,htree,rfl⟩ := h
    exact .revised rfl hd (Option.ite_none_right_eq_some.mp hv).1 htree
  | update uri changes version =>
    rw [perform?, toOption_update] at h
    exact outcome_of_updated? rfl h
  | replace uri text version =>
    rw [perform?, toOption_replace] at h
    exact outcome_of_updated? rfl h
  | close uri =>
    simp only [perform?, close, toOption_ok, Option.some.injEq] at h
    exact h ▸ .closed

/-- A property of stores that every outcome keeps is kept by every run. -/
theorem run_induction {motive : Store → Prop} (hs : motive s)
    (step : ∀ {s s' op}, motive s → Outcome engine s op s' → motive s') (ops : List Operation) :
    motive (s.run engine ops) := by
  induction ops generalizing s with
  | nil => exact hs
  | cons op ops ih =>
    apply ih
    cases h : s.perform? engine op with
    | error e => simpa [perform, h] using hs
    | ok s' => simpa [perform, h] using step hs (outcome_of_perform? h)

end SyntaxServer.Store
