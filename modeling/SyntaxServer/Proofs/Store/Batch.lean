import SyntaxServer.Proofs.Store.Run
import SyntaxServer.Proofs.Store.Sample

/-! # One batch, or one change at a time

Changes that come together in one notification have the same effect as the same changes in notifications of
their own. For the engine this supposes that it always gives a tree, and the same one with and without a
hint: a batch asks it once and with another hint.
-/
namespace SyntaxServer.Store

theorem put_put (uri : Uri) (d e : Document) (es : List (Uri × Document)) :
    put uri e (put uri d es) = put uri e es := by
  induction es with
  | nil => simp [put]
  | cons x es ih =>
    obtain ⟨v,f⟩ := x
    by_cases h : v = uri
    · simp [put, h]
    · simp [put, h, ih]

@[simp] theorem insert_insert (s : Store) (uri : Uri) (d e : Document) :
    (s.insert uri d).insert uri e = s.insert uri e := by
  simp only [insert, put_put]

variable {engine : Engine} {s : Store} {uri : Uri} {d : Document}

theorem updated?_of_hintFree (hintFree : engine.HintFree) (found : s.find? uri = some d)
    {version : Int} (newer : d.version < version) (changes : List Change) :
    s.updated? uri engine changes version =
      (d.text.changeAll? changes).bind fun text => (engine.parse? d.language text none).map fun tree =>
        s.insert uri (.ofTree d.language text tree version) := by
  have ht := text_draft? d changes
  simp only [updated?, found, newer, Option.bind_eq_bind, Option.bind_some, ↓reduceIte, ← ht]
  cases draft? d changes with
  | none => rfl
  | some draft =>
    simp only [Option.bind_some, Option.map_some, hintFree d.language draft.text draft.hint]
    cases engine.parse? d.language draft.text none <;> rfl

/-- The first of several changes may be made in an update of its own. -/
theorem updated?_cons (hintFree : engine.HintFree) (total : engine.Total)
    (found : s.find? uri = some d) {version last : Int} (newer : d.version < version)
    (later : version < last) (c : Change) (changes : List Change) :
    s.updated? uri engine (c :: changes) last =
      (s.updated? uri engine [c] version).bind fun s' => s'.updated? uri engine changes last := by
  rw [updated?_of_hintFree hintFree found (by omega), updated?_of_hintFree hintFree found newer]
  simp only [Text.changeAll?, List.foldlM_cons, List.foldlM_nil]
  cases ht : d.text.change? c with
  | none => rfl
  | some text =>
    obtain ⟨tree,htree⟩ := Option.isSome_iff_exists.mp (total d.language text none)
    have hs := find?_insert_self s uri (.ofTree d.language text tree version)
    have hu := updated?_of_hintFree hintFree hs later changes
    simp only [Option.bind_eq_bind, Option.bind_some, Option.pure_def, htree, Option.map_some, hu,
      insert_insert]
    rfl

/-- The store after changes in notifications of their own, each with its version. -/
def updateEach (engine : Engine) (uri : Uri) (s : Store) (steps : List (Int × Change)) :
    Except Error Store :=
  steps.foldlM (fun s step => s.update uri engine [step.2] step.1) s

theorem toOption_updateEach (hintFree : engine.HintFree) (total : engine.Total)
    (found : s.find? uri = some d) {steps : List (Int × Change)} (hne : steps ≠ [])
    (ascending : (d.version :: steps.map Prod.fst).Pairwise (· < ·)) :
    (s.updateEach engine uri steps).toOption =
      s.updated? uri engine (steps.map Prod.snd) (steps.getLast hne).1 := by
  induction steps generalizing s d with
  | nil => exact absurd rfl hne
  | cons step rest ih =>
    obtain ⟨version,c⟩ := step
    simp only [updateEach, List.foldlM_cons, toOption_bind, toOption_update]
    cases rest with
    | nil => cases h : s.updated? uri engine [c] version <;> simp [h]
    | cons next rest =>
      have hlast : (next :: rest).getLast (by simp) ∈ next :: rest := List.getLast_mem _
      obtain ⟨hnew,htail⟩ := List.pairwise_cons.mp ascending
      have newer : d.version < version := hnew version (List.mem_cons_self ..)
      have later : version < ((next :: rest).getLast (by simp)).1 :=
        List.rel_of_pairwise_cons htail (List.mem_map_of_mem hlast)
      rw [List.map_cons, List.getLast_cons (by simp),
        updated?_cons hintFree total found newer later]
      cases hs : s.updated? uri engine [c] version with
      | none => rfl
      | some s' =>
        obtain ⟨e,_,_,he,_,_,_,rfl⟩ := updated?_eq_some_iff.mp hs
        exact ih (find?_insert_self ..) (by simp) htail

/-- A batch at the last version succeeds exactly when the changes, one at a time at ascending versions, all
do; both lead to the same store, and no other document is touched. -/
theorem update_eq_ok_iff_updateEach (hintFree : engine.HintFree) (total : engine.Total)
    (found : s.find? uri = some d) {steps : List (Int × Change)} (hne : steps ≠ [])
    (ascending : (d.version :: steps.map Prod.fst).Pairwise (· < ·)) (s' : Store) :
    (s.update uri engine (steps.map Prod.snd) (steps.getLast hne).1 = .ok s' ↔
      s.updateEach engine uri steps = .ok s') ∧
    (s.updateEach engine uri steps = .ok s' →
      (∃ d', s'.find? uri = some d' ∧ d'.language = d.language ∧
        d'.version = (steps.getLast hne).1) ∧
      ∀ other, other ≠ uri → s'.find? other = s.find? other) := by
  have heach := toOption_updateEach hintFree total found hne ascending
  have hbatch := toOption_update s uri engine (steps.map Prod.snd) (steps.getLast hne).1
  refine ⟨?_,fun h => ?_⟩
  · rw [← toOption_eq_some_iff, ← toOption_eq_some_iff, heach, hbatch]
  · rw [← toOption_eq_some_iff, heach] at h
    obtain ⟨e,draft,tree,he,_,_,_,rfl⟩ := updated?_eq_some_iff.mp h
    obtain rfl : d = e := Option.some.inj (found.symm.trans he)
    exact ⟨⟨_,find?_insert_self ..,rfl,rfl⟩,fun other ho => find?_insert_of_ne s ho _⟩

/-- Two changes of spans with one of the whole text between them. -/
def threeSteps : List (Int × Change) :=
  [(-2, ⟨some ⟨⟨0, 2⟩, ⟨0, 2⟩⟩, "\n".toList⟩),
    (0, ⟨none, "tr\nu".toList⟩),
    (1, ⟨some ⟨⟨0, 2⟩, ⟨0, 3⟩⟩, "😀".toList⟩)]

theorem update_threeSteps_eq_ok_iff :
    let d := Document.ofTree .json "tru".toList (Engine.tokenlessTree "tru".toList) (-3)
    let s := insert {} (.untitled ['a']) d
    let s' := insert {} (.untitled ['a'])
      (.ofTree .json "tr😀\nu".toList (Engine.tokenlessTree "tr😀\nu".toList) 1)
    Engine.tokenless.HintFree ∧ Engine.tokenless.Total ∧ s.find? (.untitled ['a']) = some d ∧
    (d.version :: threeSteps.map Prod.fst).Pairwise (· < ·) ∧
    s.updateEach .tokenless (.untitled ['a']) threeSteps = .ok s' ∧
    s.update (.untitled ['a']) .tokenless (threeSteps.map Prod.snd) 1 = .ok s' :=
  ⟨Engine.tokenless_hintFree,Engine.tokenless_total,rfl,by decide,rfl,
    (update_eq_ok_iff_updateEach Engine.tokenless_hintFree Engine.tokenless_total rfl
      (show threeSteps ≠ [] by decide) (by decide) _).1.mpr rfl⟩

end SyntaxServer.Store
