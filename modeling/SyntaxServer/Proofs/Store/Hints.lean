import SyntaxServer.Proofs.Store.Refusal
import SyntaxServer.Proofs.Text.Truthful

/-! # What the engine is told

With a new text the engine gets the old tree and the edits made since. Whatever changes an update is made of,
each edit is true of the texts before and after its change, and all of them together lead from the text of the
old tree to the new text. So an edit that an update prepares is never refused.
-/
namespace SyntaxServer.Store

namespace Draft

theorem change_eq_ok {draft next : Draft} {c : Change} (h : draft.change c = .ok next) :
    (c.span = none ∧ next = ⟨c.text, none⟩) ∨
    ∃ span e, c.span = some span ∧ Edit.ofSpan draft.text span c.text = .ok e ∧
      e.Describes draft.text c.text next.text ∧ next.hint = draft.hint.map (·.record e) := by
  obtain ⟨span,r⟩ := c
  cases span with
  | none =>
    cases h
    exact Or.inl ⟨rfl,rfl⟩
  | some span =>
    obtain ⟨e,he,h⟩ := bind_eq_ok h
    rw [← toOption_eq_some_iff, toOption_mapError, toOption_eq_some_iff] at he
    cases h
    exact Or.inr ⟨span,e,rfl,he,Edit.describes_of_ofSpan he,rfl⟩

/-- The engine is told of a tree and of edits that lead from the text of that tree to the draft. -/
def LeadsFrom (text : Text) (tree : Tree) (draft : Draft) : Prop :=
  ∀ hint, draft.hint = some hint → hint.tree = tree ∧ Edit.Chain text hint.edits draft.text

variable {text : Text} {tree : Tree} {draft next : Draft}

theorem LeadsFrom.change {c : Change} (hd : draft.LeadsFrom text tree) (h : draft.change c = .ok next) :
    next.LeadsFrom text tree := by
  intro hint hhint
  rcases change_eq_ok h with ⟨_,rfl⟩ | ⟨span,e,_,_,he,hnext⟩
  · cases hhint
  · rw [hnext, Option.map_eq_some_iff] at hhint
    obtain ⟨earlier,hearlier,rfl⟩ := hhint
    obtain ⟨htree,hchain⟩ := hd earlier hearlier
    exact ⟨htree,hchain.concat he⟩

theorem LeadsFrom.foldlM {changes : List Change} (hd : draft.LeadsFrom text tree)
    (h : changes.foldlM Draft.change draft = .ok next) : next.LeadsFrom text tree := by
  induction changes generalizing draft with
  | nil =>
    cases h
    exact hd
  | cons c changes ih =>
    obtain ⟨middle,hmiddle,h⟩ := bind_eq_ok h
    exact ih (hd.change hmiddle) h

end Draft

variable {d : Document}

theorem leadsFrom_of_draft? {changes : List Change} {draft : Draft} (h : draft? d changes = some draft) :
    draft.LeadsFrom d.text d.tree := by
  have hstart : Draft.LeadsFrom d.text d.tree ⟨d.text, some (Hint.ofTree d.tree)⟩ := by
    rintro hint ⟨⟩
    exact ⟨rfl,.nil⟩
  exact hstart.foldlM (toOption_eq_some_iff.1 h)

/-- Where all changes can be made, each of them makes one draft of another. -/
theorem draft?_append_cons {before after : List Change} {c : Change} {last : Draft}
    (h : draft? d (before ++ c :: after) = some last) :
    ∃ old new, draft? d before = some old ∧ old.change c = .ok new ∧ draft? d (before ++ [c]) = some new := by
  have hall := toOption_eq_some_iff.1 h
  rw [List.foldlM_append] at hall
  obtain ⟨old,hold,hall⟩ := bind_eq_ok hall
  obtain ⟨new,hnew,_⟩ := bind_eq_ok hall
  refine ⟨old,new,toOption_eq_some_iff.2 hold,hnew,toOption_eq_some_iff.2 ?_⟩
  rw [List.foldlM_append, hold, ok_bind, List.foldlM_cons, hnew]
  rfl

theorem prepare_eq_ok {s : Store} {uri : Uri} {span : Span} {r : Text} {e : Edit}
    (found : s.find? uri = some d) (he : Edit.ofSpan d.text span r = .ok e) :
    s.prepare uri span r = .ok (e, e.apply d.text r) := by
  rw [prepare, get_eq_ok_iff.2 found, ok_bind, he, mapError_ok, ok_bind]
  rfl

/-- An update fails for its spans or before any edit is made, never for an edit that does not fit. -/
theorem not_isMisfit_of_update {s : Store} {uri : Uri} {engine : Engine} {changes : List Change}
    {version : Int} {fault : EditFault}
    (h : s.update uri engine changes version = .error (.ofEditFault fault)) : fault.isMisfit = false := by
  have hspan {text : Text} {span : Span} {r : Text} {fault' : EditFault}
      (hfault : Edit.ofSpan text span r = .error fault')
      (heq : Error.ofEditFault fault = .ofEditFault fault') : fault.isMisfit = false := by
    rw [EditFault.isMisfit_eq_of_message_eq (Error.invalidEdit.inj heq)]
    exact EditFault.isMisfit_of_ofSpan hfault
  have hrefusal : Refusal engine s (.update uri changes version) (.ofEditFault fault) :=
    perform?_eq_error_iff.1 h
  generalize he : Error.ofEditFault fault = e at hrefusal
  cases hrefusal with
  | unknown => cases he
  | stale => cases he
  | unparsed => cases he
  | unprepared _ hfault => exact hspan hfault he
  | misplaced _ _ hfault =>
    obtain ⟨_,_,_,_,_,_,_,hfault⟩ := hfault
    exact hspan hfault he

/-- In an update that succeeds, the change of a span gives an edit that describes it, in a batch as well as
alone; the engine is asked for the last text with edits that lead there. No update is refused because an edit
of its own does not fit. -/
theorem update_edits_describe (s : Store) (uri : Uri) (engine : Engine) (changes : List Change)
    (version : Int) :
    (∀ d s', s.find? uri = some d → s.update uri engine changes version = .ok s' →
      (∀ before c after, changes = before ++ c :: after →
        ∃ old new, draft? d before = some old ∧ draft? d (before ++ [c]) = some new ∧
          match c.span with
          | none => new.text = c.text
          | some span => ∃ e, Edit.ofSpan old.text span c.text = .ok e ∧
            e.Describes old.text c.text new.text ∧
            (changes = [c] → s.prepare uri span c.text = .ok (e, new.text))) ∧
      ∃ last tree, draft? d changes = some last ∧ last.LeadsFrom d.text d.tree ∧
        engine.parse? d.language last.text last.hint = some tree ∧
        s' = s.insert uri (.ofTree d.language last.text tree version)) ∧
    ∀ fault : EditFault, fault.isMisfit → s.update uri engine changes version ≠ .error (.ofEditFault fault) := by
  constructor
  · intro d s' found h
    rw [← toOption_eq_some_iff, toOption_update] at h
    obtain ⟨d',last,tree,found',_,hlast,hparse,rfl⟩ := updated?_eq_some_iff.1 h
    cases found.symm.trans found'
    refine ⟨?_,last,tree,hlast,leadsFrom_of_draft? hlast,hparse,rfl⟩
    rintro before c after rfl
    obtain ⟨old,new,hold,hchange,hnew⟩ := draft?_append_cons hlast
    refine ⟨old,new,hold,hnew,?_⟩
    rcases Draft.change_eq_ok hchange with ⟨hspan,rfl⟩ | ⟨span,e,hspan,he,hdescribes,_⟩
    · simp only [hspan]
    · simp only [hspan]
      refine ⟨e,he,hdescribes,?_⟩
      intro hlone
      -- a lone change is prepared against the stored text, where its draft begins as well
      cases before with
      | nil =>
        cases hold
        rw [hdescribes.new_eq]
        exact prepare_eq_ok found he
      | cons b before => simp at hlone
  · intro fault hmisfit h
    rw [not_isMisfit_of_update h] at hmisfit
    cases hmisfit

/-- One change takes the line feed out of a line end, and the next runs past the end of the line that the rest
of it still ends. -/
theorem update_edits_describe_lineEnds :
    let d := Document.ofTree .json "a\r\nb".toList (Engine.tokenlessTree "a\r\nb".toList) 1
    let s := insert {} (.untitled ['a']) d
    let changes : List Change :=
      [⟨some ⟨⟨0, 1⟩, ⟨1, 0⟩⟩, "\r".toList⟩, ⟨some ⟨⟨1, 0⟩, ⟨1, 9⟩⟩, "é\n😀".toList⟩]
    s.find? (.untitled ['a']) = some d ∧
    (∃ s', s.update (.untitled ['a']) .tokenless changes 2 = .ok s') ∧
    Edit.Describes ⟨2, 3, 9, ⟨0, 2⟩, ⟨0, 3⟩, ⟨1, 4⟩⟩ "a\rb".toList "é\n😀".toList "a\ré\n😀".toList := by
  intro d s changes
  have found : s.find? (.untitled ['a']) = some d := rfl
  have hsome : (s.update (.untitled ['a']) .tokenless changes 2).toOption.isSome := by decide +kernel
  obtain ⟨s',hs'⟩ := Option.isSome_iff_exists.1 hsome
  rw [toOption_eq_some_iff] at hs'
  obtain ⟨hedits,_⟩ := (update_edits_describe s (.untitled ['a']) .tokenless changes 2).1 d s' found hs'
  obtain ⟨old,new,hold,hnew,e,he,hdescribes,_⟩ := hedits (changes.take 1) _ [] rfl
  have hfirst : (draft? d (changes.take 1)).map (·.text) = some "a\rb".toList := by decide +kernel
  have hboth : (draft? d changes).map (·.text) = some "a\ré\n😀".toList := by decide +kernel
  have hedit : (Edit.ofSpan "a\rb".toList ⟨⟨1, 0⟩, ⟨1, 9⟩⟩ "é\n😀".toList).toOption =
      some ⟨2, 3, 9, ⟨0, 2⟩, ⟨0, 3⟩, ⟨1, 4⟩⟩ := by decide +kernel
  have hold' : old.text = "a\rb".toList := by simpa only [hold, Option.map_some, Option.some.injEq] using hfirst
  have hnew' : new.text = "a\ré\n😀".toList := by
    simpa only [show draft? d changes = some new from hnew, Option.map_some, Option.some.injEq] using hboth
  rw [hold'] at he hdescribes
  rw [hnew'] at hdescribes
  rw [he] at hedit
  cases hedit
  exact ⟨found,⟨s',hs'⟩,hdescribes⟩

end SyntaxServer.Store
