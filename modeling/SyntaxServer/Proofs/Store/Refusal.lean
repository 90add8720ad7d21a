import SyntaxServer.Proofs.Store.Run
import SyntaxServer.Proofs.Store.Sample

/-! # Why an operation is refused

An operation on an open document checks that the document is there, that the version is newer, that the next
text can be made, and that the engine gives a tree, in this order. Only a lone change of a span is prepared
before the versions are compared, and so a change that is out of order and out of place at once is reported
in two ways.
-/
namespace SyntaxServer.Store

/-- A document brought to the next text. -/
def revise (s : Store) (uri : Uri) (engine : Engine) (version : Int)
    (next : Document → Except Error Draft) : Except Error Store := do
  let d ← s.get uri
  d.checkNewer uri version
  let draft ← next d
  let tree ← parse uri engine d.language draft.text draft.hint
  return s.insert uri (d.revise draft.text tree version)

variable {engine : Engine} {s : Store} {uri : Uri} {d : Document} {version : Int} {e : Error}

theorem get_eq_error_iff : s.get uri = .error e ↔ s.find? uri = none ∧ e = .unknownDocument uri := by
  unfold get
  cases s.find? uri <;> simp [eq_comm]

theorem get_eq_ok_iff : s.get uri = .ok d ↔ s.find? uri = some d := by
  rw [← toOption_eq_some_iff, toOption_get]

theorem checkNewer_eq_error_iff :
    d.checkNewer uri version = .error e ↔
      version ≤ d.version ∧ e = .outOfOrderEdit uri d.version version := by
  unfold Document.checkNewer
  by_cases h : version ≤ d.version <;> simp [h, eq_comm]

theorem checkNewer_eq_ok_iff {u : Unit} : d.checkNewer uri version = .ok u ↔ d.version < version := by
  rw [← toOption_eq_some_iff, Document.toOption_checkNewer]
  simp

theorem parse_eq_error_iff {language : Language} {text : Text} {hint : Option Hint} :
    parse uri engine language text hint = .error e ↔
      engine.parse? language text hint = none ∧ e = .parseFailure uri "parser returned no tree" := by
  unfold parse
  cases engine.parse? language text hint <;> simp [eq_comm]

theorem revise_eq_error_iff {next : Document → Except Error Draft} :
    s.revise uri engine version next = .error e ↔
      (s.find? uri = none ∧ e = .unknownDocument uri) ∨
      ∃ d, s.find? uri = some d ∧
        ((version ≤ d.version ∧ e = .outOfOrderEdit uri d.version version) ∨
          d.version < version ∧ (next d = .error e ∨
            ∃ draft, next d = .ok draft ∧ engine.parse? d.language draft.text draft.hint = none ∧
              e = .parseFailure uri "parser returned no tree")) := by
  simp only [revise, bind_eq_error_iff, get_eq_error_iff, get_eq_ok_iff, checkNewer_eq_error_iff,
    checkNewer_eq_ok_iff, parse_eq_error_iff]
  simp [pure, Except.pure]

theorem edit_eq_revise (edit : Edit) (text : Text) :
    s.edit uri engine edit text version = s.revise uri engine version fun d => do
      (edit.checkFit d.text text).mapError Error.ofEditFault
      return ⟨text, some ((Hint.ofTree d.tree).record edit)⟩ := by
  simp only [Store.edit, revise, bind_assoc, pure_bind]

theorem updateAll_eq_revise (changes : List Change) :
    s.updateAll uri engine changes version = s.revise uri engine version fun d =>
      changes.foldlM Draft.change ⟨d.text, some (Hint.ofTree d.tree)⟩ := rfl

/-- Of some changes, one does not fit the text that those before it make of a document. -/
def Misplaced (d : Document) (changes : List Change) (fault : EditFault) : Prop :=
  ∃ before span r after draft, changes = before ++ ⟨some span, r⟩ :: after ∧
    draft? d before = some draft ∧ Edit.ofSpan draft.text span r = .error fault

theorem misplaced_singleton_iff {span : Span} {r : Text} {fault : EditFault} :
    Misplaced d [⟨some span, r⟩] fault ↔ Edit.ofSpan d.text span r = .error fault := by
  constructor
  · rintro ⟨before,span',r',after,draft,hsplit,hdraft,hfault⟩
    cases before with
    | nil =>
      cases hsplit
      cases hdraft
      exact hfault
    | cons c before => simp at hsplit
  · intro h
    exact ⟨[],span,r,[],_,rfl,rfl,h⟩

theorem foldlM_change_eq_error_iff {changes : List Change} :
    changes.foldlM Draft.change ⟨d.text, some (Hint.ofTree d.tree)⟩ = .error e ↔
      ∃ fault, Misplaced d changes fault ∧ e = .ofEditFault fault := by
  rw [foldlM_eq_error_iff]
  constructor
  · rintro ⟨before,⟨span,r⟩,after,draft,rfl,hdraft,hchange⟩
    cases span with
    | none => cases hchange
    | some span =>
      simp only [Draft.change, bind_eq_error_iff, mapError_eq_error_iff] at hchange
      rcases hchange with ⟨fault,hfault,rfl⟩ | ⟨_,_,hpure⟩
      · exact ⟨fault,⟨before,span,r,after,draft,rfl,toOption_eq_some_iff.2 hdraft,hfault⟩,rfl⟩
      · cases hpure
  · rintro ⟨fault,⟨before,span,r,after,draft,rfl,hdraft,hfault⟩,rfl⟩
    refine ⟨before,_,after,draft,rfl,toOption_eq_some_iff.1 hdraft,?_⟩
    simp only [Draft.change, hfault]
    rfl

section Lone

variable {span : Span} {r : Text}

/-- A lone change that does not fit is reported before the versions are compared. -/
theorem update_lone_of_error (found : s.find? uri = some d) {fault : EditFault}
    (h : Edit.ofSpan d.text span r = .error fault) :
    s.update uri engine [⟨some span, r⟩] version = .error (.ofEditFault fault) := by
  have hget : s.get uri = .ok d := get_eq_ok_iff.2 found
  simp only [update, prepare, hget, h, ok_bind, error_bind, mapError_error]

/-- A lone change that fits is looked at like a batch of one: the edit prepared for it always fits. -/
theorem update_lone_of_ok (found : s.find? uri = some d) {edit : Edit}
    (h : Edit.ofSpan d.text span r = .ok edit) :
    s.update uri engine [⟨some span, r⟩] version = s.updateAll uri engine [⟨some span, r⟩] version := by
  have hget : s.get uri = .ok d := get_eq_ok_iff.2 found
  have hfit := Edit.checkFit_ofSpan h
  have hdraft : Draft.change ⟨d.text, some (Hint.ofTree d.tree)⟩ ⟨some span, r⟩ =
      .ok ⟨edit.apply d.text r, some ((Hint.ofTree d.tree).record edit)⟩ := by
    simp only [Draft.change, h]
    rfl
  have hupdate : s.update uri engine [⟨some span, r⟩] version =
      s.edit uri engine edit (edit.apply d.text r) version := by
    simp only [update, prepare, hget, h, ok_bind, mapError_ok, pure_bind]
  rw [hupdate, edit_eq_revise, updateAll_eq_revise]
  simp only [revise, hget, hfit, hdraft, ok_bind, mapError_ok, pure_bind, List.foldlM_cons,
    List.foldlM_nil]

theorem update_lone_of_none (missing : s.find? uri = none) :
    s.update uri engine [⟨some span, r⟩] version = .error (.unknownDocument uri) := by
  have hget : s.get uri = .error (.unknownDocument uri) := get_eq_error_iff.2 ⟨missing,rfl⟩
  simp only [update, prepare, hget, error_bind]

end Lone

/-- The text that an operation brings a document to; one that does not revise it keeps its text. -/
def Operation.draft (d : Document) : Operation → Except Error Draft
  | edit _ e text _ => do
    (e.checkFit d.text text).mapError Error.ofEditFault
    return ⟨text, some ((Hint.ofTree d.tree).record e)⟩
  | update _ changes _ => changes.foldlM Draft.change ⟨d.text, some (Hint.ofTree d.tree)⟩
  | replace _ text _ => .ok ⟨text, none⟩
  | openDocument _ _ _ _ => .ok ⟨d.text, none⟩
  | close _ => .ok ⟨d.text, none⟩

/-- What is prepared before the versions are compared can be prepared. -/
def Operation.Ready (d : Document) : Operation → Prop
  | update _ [⟨some span, r⟩] _ => ∃ edit, Edit.ofSpan d.text span r = .ok edit
  | _ => True

theorem ready_update {changes : List Change}
    (h : ∀ span r, changes = [⟨some span, r⟩] → ∃ edit, Edit.ofSpan d.text span r = .ok edit) :
    Operation.Ready d (.update uri changes version) := by
  unfold Operation.Ready
  split
  · next hop =>
    cases hop
    exact h _ _ rfl
  · trivial

/-- Revisions differ in how they make the next text, and in nothing else. -/
theorem perform?_eq_revise {op : Operation} (revises : op.revision? = some (uri, version))
    (ready : ∀ d, s.find? uri = some d → op.Ready d) :
    s.perform? engine op = s.revise uri engine version fun d => op.draft d := by
  cases op with
  | openDocument => cases revises
  | close => cases revises
  | edit uri edit text version =>
    cases revises
    exact edit_eq_revise edit text
  | replace uri text version =>
    cases revises
    rfl
  | update uri changes version =>
    cases revises
    match changes with
    | [] => rfl
    | [⟨none, text⟩] => rfl
    | [⟨some span, r⟩] =>
      cases hd : s.find? uri with
      | none =>
        have hget : s.get uri = .error (.unknownDocument uri) := get_eq_error_iff.2 ⟨hd,rfl⟩
        rw [perform?, update_lone_of_none hd, revise, hget]
        rfl
      | some d =>
        obtain ⟨edit,hedit⟩ := ready d hd
        exact update_lone_of_ok hd hedit
    | ⟨none, _⟩ :: _ :: _ => rfl
    | ⟨some _, _⟩ :: _ :: _ => rfl

/-- Why an operation fails, and the error it reports. -/
inductive Refusal (engine : Engine) (s : Store) : Operation → Error → Prop where
  | unknown {op uri version} (revises : op.revision? = some (uri, version)) (missing : s.find? uri = none) :
    Refusal engine s op (.unknownDocument uri)
  | stale {op uri version d} (revises : op.revision? = some (uri, version)) (found : s.find? uri = some d)
      (ready : op.Ready d) (older : version ≤ d.version) :
    Refusal engine s op (.outOfOrderEdit uri d.version version)
  | unprepared {uri span r version d fault} (found : s.find? uri = some d)
      (h : Edit.ofSpan d.text span r = .error fault) :
    Refusal engine s (.update uri [⟨some span, r⟩] version) (.ofEditFault fault)
  | misplaced {uri changes version d fault} (found : s.find? uri = some d) (newer : d.version < version)
      (h : Misplaced d changes fault) :
    Refusal engine s (.update uri changes version) (.ofEditFault fault)
  | misfit {uri edit text version d fault} (found : s.find? uri = some d) (newer : d.version < version)
      (h : edit.checkFit d.text text = .error fault) :
    Refusal engine s (.edit uri edit text version) (.ofEditFault fault)
  | unparsed {op uri version d draft} (revises : op.revision? = some (uri, version))
      (found : s.find? uri = some d) (newer : d.version < version) (drafted : op.draft d = .ok draft)
      (h : engine.parse? d.language draft.text draft.hint = none) :
    Refusal engine s op (.parseFailure uri "parser returned no tree")
  | unopened {uri language text version} (h : engine.parse? language text none = none) :
    Refusal engine s (.openDocument uri language text version) (.parseFailure uri "parser returned no tree")

theorem refusal_of_revise {op : Operation} (revises : op.revision? = some (uri, version))
    (ready : ∀ d, s.find? uri = some d → op.Ready d)
    (h : s.revise uri engine version (fun d => op.draft d) = .error e) : Refusal engine s op e := by
  rcases revise_eq_error_iff.1 h with ⟨missing,rfl⟩ | ⟨d,found,h⟩
  · exact .unknown revises missing
  rcases h with ⟨older,rfl⟩ | ⟨newer,h⟩
  · exact .stale revises found (ready d found) older
  rcases h with h | ⟨draft,drafted,hparse,rfl⟩
  · cases op with
    | openDocument => cases revises
    | close => cases revises
    | replace => cases h
    | edit uri edit text version =>
      cases revises
      simp only [Operation.draft, bind_eq_error_iff, mapError_eq_error_iff] at h
      rcases h with ⟨fault,hfault,rfl⟩ | ⟨_,_,hpure⟩
      · exact .misfit found newer hfault
      · cases hpure
    | update uri changes version =>
      cases revises
      obtain ⟨fault,hfault,rfl⟩ := foldlM_change_eq_error_iff.1 h
      exact .misplaced found newer hfault
  · exact .unparsed revises found newer drafted hparse

theorem revise_of_refusal {op : Operation} (revises : op.revision? = some (uri, version))
    (ready : ∀ d, s.find? uri = some d → op.Ready d) (h : Refusal engine s op e) :
    s.revise uri engine version (fun d => op.draft d) = .error e := by
  rw [revise_eq_error_iff]
  cases h with
  | unknown revises' missing =>
    cases revises.symm.trans revises'
    exact Or.inl ⟨missing,rfl⟩
  | stale revises' found _ older =>
    cases revises.symm.trans revises'
    exact Or.inr ⟨_,found,Or.inl ⟨older,rfl⟩⟩
  | unprepared found h =>
    cases revises
    obtain ⟨edit,hedit⟩ := ready _ found
    cases h.symm.trans hedit
  | misplaced found newer h =>
    cases revises
    exact Or.inr ⟨_,found,Or.inr ⟨newer,Or.inl (foldlM_change_eq_error_iff.2 ⟨_,h,rfl⟩)⟩⟩
  | misfit found newer h =>
    cases revises
    refine Or.inr ⟨_,found,Or.inr ⟨newer,Or.inl ?_⟩⟩
    simp only [Operation.draft, h, mapError_error, error_bind]
  | unparsed revises' found newer drafted h =>
    cases revises.symm.trans revises'
    exact Or.inr ⟨_,found,Or.inr ⟨newer,Or.inr ⟨_,drafted,h,rfl⟩⟩⟩
  | unopened h => cases revises

theorem exists_fault_of_not_ready {op : Operation} (h : ¬ op.Ready d) :
    ∃ uri span r version fault, op = .update uri [⟨some span, r⟩] version ∧
      Edit.ofSpan d.text span r = .error fault := by
  unfold Operation.Ready at h
  split at h
  · next uri span r version =>
    cases hedit : Edit.ofSpan d.text span r with
    | ok edit => exact absurd ⟨edit,hedit⟩ h
    | error fault => exact ⟨uri,span,r,version,fault,rfl,hedit⟩
  · exact absurd trivial h

theorem eq_of_refusal_unprepared {span : Span} {r : Text} {fault : EditFault} (found : s.find? uri = some d)
    (hfault : Edit.ofSpan d.text span r = .error fault)
    (h : Refusal engine s (.update uri [⟨some span, r⟩] version) e) : e = .ofEditFault fault := by
  have hmisplaced : Misplaced d [⟨some span, r⟩] fault := misplaced_singleton_iff.2 hfault
  cases h with
  | unknown revises missing =>
    cases revises
    cases missing.symm.trans found
  | stale revises found' ready _ =>
    cases revises
    cases found.symm.trans found'
    obtain ⟨edit,hedit⟩ := ready
    cases hfault.symm.trans hedit
  | unprepared found' h =>
    cases found.symm.trans found'
    cases hfault.symm.trans h
    rfl
  | misplaced found' _ h =>
    cases found.symm.trans found'
    cases hfault.symm.trans (misplaced_singleton_iff.1 h)
    rfl
  | unparsed revises found' _ drafted _ =>
    cases revises
    cases found.symm.trans found'
    cases drafted.symm.trans (foldlM_change_eq_error_iff.2 ⟨fault,hmisplaced,rfl⟩)

theorem perform?_eq_error_iff_of_revision?_eq_none {op : Operation} (hrevises : op.revision? = none) :
    s.perform? engine op = .error e ↔ Refusal engine s op e := by
  have hopen : Refusal engine s op e → ∃ uri language text version,
      op = .openDocument uri language text version ∧ engine.parse? language text none = none ∧
        e = .parseFailure uri "parser returned no tree" := by
    intro h
    cases h with
    | unopened h => exact ⟨_,_,_,_,rfl,h,rfl⟩
    | unknown revises _ => cases hrevises.symm.trans revises
    | stale revises _ _ _ => cases hrevises.symm.trans revises
    | unparsed revises _ _ _ _ => cases hrevises.symm.trans revises
    | unprepared _ _ => cases hrevises
    | misplaced _ _ _ => cases hrevises
    | misfit _ _ _ => cases hrevises
  cases op with
  | openDocument uri language text version =>
    simp only [perform?, openDocument, bind_eq_error_iff, parse_eq_error_iff]
    constructor
    · rintro (⟨hparse,rfl⟩ | ⟨_,_,hpure⟩)
      · exact .unopened hparse
      · cases hpure
    · intro h
      obtain ⟨_,_,_,_,hop,hparse,rfl⟩ := hopen h
      cases hop
      exact Or.inl ⟨hparse,rfl⟩
  | close uri =>
    constructor
    · intro h
      cases h
    · intro h
      obtain ⟨_,_,_,_,hop,_⟩ := hopen h
      cases hop
  | _ => cases hrevises

/-- An operation fails exactly for one of these reasons, and reports the error that belongs to it. -/
theorem perform?_eq_error_iff {op : Operation} :
    s.perform? engine op = .error e ↔ Refusal engine s op e := by
  cases hrevises : op.revision? with
  | none => exact perform?_eq_error_iff_of_revision?_eq_none hrevises
  | some target =>
    obtain ⟨uri,version⟩ := target
    by_cases ready : ∀ d, s.find? uri = some d → op.Ready d
    · rw [perform?_eq_revise hrevises ready]
      exact ⟨refusal_of_revise hrevises ready,revise_of_refusal hrevises ready⟩
    · obtain ⟨d,hnot⟩ := Classical.not_forall.1 ready
      obtain ⟨found,hnot⟩ := Classical.not_imp.1 hnot
      obtain ⟨_,span,r,_,fault,rfl,hfault⟩ := exists_fault_of_not_ready hnot
      cases hrevises
      have hupdate : s.perform? engine (.update uri [⟨some span, r⟩] version) = .error (.ofEditFault fault) :=
        update_lone_of_error found hfault
      constructor
      · intro h
        cases hupdate.symm.trans h
        exact .unprepared found hfault
      · intro h
        rw [hupdate, eq_of_refusal_unprepared found hfault h]

/-- An update that is not newer is refused as out of order, whatever its changes, but for a lone change that
does not fit the text: there the misfit is reported. -/
theorem update_stale (found : s.find? uri = some d) (older : version ≤ d.version) (changes : List Change) :
    (s.update uri engine changes version = .error (.outOfOrderEdit uri d.version version) ↔
      ∀ span r, changes = [⟨some span, r⟩] → ∃ edit, Edit.ofSpan d.text span r = .ok edit) ∧
    ∀ span r fault, changes = [⟨some span, r⟩] → Edit.ofSpan d.text span r = .error fault →
      s.update uri engine changes version = .error (.ofEditFault fault) := by
  refine ⟨⟨?_,?_⟩,?_⟩
  · rintro h span r rfl
    cases hedit : Edit.ofSpan d.text span r with
    | ok edit => exact ⟨edit,rfl⟩
    | error fault => cases h.symm.trans (update_lone_of_error found hedit)
  · intro hready
    exact perform?_eq_error_iff.2 (.stale rfl found (ready_update hready) older)
  · rintro span r fault rfl hfault
    exact update_lone_of_error found hfault

/-- A batch that is out of order and out of place at once. -/
theorem update_stale_batch :
    let d := Document.ofTree .json "tru".toList (Engine.tokenlessTree "tru".toList) 1
    let s := insert {} (.untitled ['a']) d
    s.find? (.untitled ['a']) = some d ∧ (0 : Int) ≤ d.version ∧
    s.update (.untitled ['a']) .tokenless
      [⟨none, "x".toList⟩, ⟨some ⟨⟨9, 0⟩, ⟨9, 0⟩⟩, "x".toList⟩] 0 =
        .error (.outOfOrderEdit (.untitled ['a']) 1 0) := by
  intro d s
  have found : s.find? (.untitled ['a']) = some d := rfl
  have older : (0 : Int) ≤ d.version := by decide
  refine ⟨found,older,(update_stale found older _).1.2 ?_⟩
  rintro span r ⟨⟩

/-- The same change alone is reported as out of place, though its version is not newer. -/
theorem update_stale_misplaced :
    let d := Document.ofTree .json "tru".toList (Engine.tokenlessTree "tru".toList) 1
    let s := insert {} (.untitled ['a']) d
    let changes := [⟨some ⟨⟨9, 0⟩, ⟨9, 0⟩⟩, "x".toList⟩]
    s.find? (.untitled ['a']) = some d ∧ (0 : Int) ≤ d.version ∧
    s.update (.untitled ['a']) .tokenless changes 0 = .error (.ofEditFault (.startPastLastLine ⟨9, 0⟩ 0)) ∧
    s.update (.untitled ['a']) .tokenless changes 0 ≠ .error (.outOfOrderEdit (.untitled ['a']) 1 0) :=
  ⟨rfl,by decide,rfl,nofun⟩

end SyntaxServer.Store
