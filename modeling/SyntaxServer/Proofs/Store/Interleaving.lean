import Mathlib.Data.List.Induction
import Mathlib.Logic.Function.Basic
import SyntaxServer.Proofs.Store.Refusal

/-! # Two updates at once

A store that is shared is locked for each section of a call. A batch and a change of the whole text are one
section each, but a lone change of a span is prepared in a section of its own, and another call may be done before
the prepared edit is applied. Then that call is lost: the text is the one prepared, though its version is newer.
-/
namespace SyntaxServer.Store

/-- The changes of one notification, with the version they bring. -/
structure Call where
  changes : List Change
  version : Int

/-- How far a call has come. -/
inductive Stage where
  | waiting
  | prepared (edit : Edit) (text : Text)
  | done
  | failed (e : Error)
deriving DecidableEq, Repr

/-- The store after a section that writes, if it does not fail, and how far the call has come with it. -/
def conclude (s : Store) : Except Error Store → Store × Stage
  | .ok s' => (s', .done)
  | .error e => (s, .failed e)

/-- The next section of a call, under one lock. -/
def Call.advance (engine : Engine) (uri : Uri) (c : Call) (s : Store) : Stage → Store × Stage
  | .waiting =>
    match c.changes with
    | [⟨some span, text⟩] =>
      match s.prepare uri span text with
      | .ok (edit, text) => (s, .prepared edit text)
      | .error e => (s, .failed e)
    | changes => s.conclude (s.update uri engine changes c.version)
  | .prepared edit text => s.conclude (s.edit uri engine edit text c.version)
  | .done => (s, .done)
  | .failed e => (s, .failed e)

inductive Side where
  | left
  | right
deriving DecidableEq, Repr

def Side.other : Side → Side
  | left => right
  | right => left

/-- A store, and how far each of two calls upon one of its documents has come. -/
structure Race where
  store : Store
  stage : Side → Stage

section Race

variable (engine : Engine) (uri : Uri) (calls : Side → Call)

def Race.step (r : Race) (side : Side) : Race :=
  let (store, stage) := (calls side).advance engine uri r.store (r.stage side)
  ⟨store, Function.update r.stage side stage⟩

variable (s : Store)

/-- What becomes of a store when two calls take their sections in a given order. -/
def race (schedule : List Side) : Race := schedule.foldl (Race.step engine uri calls) ⟨s, fun _ => .waiting⟩

/-- Both calls one after the other, each of them as a whole. -/
def inTurn (first : Side) : Except Error Store := do
  let s ← s.update uri engine (calls first).changes (calls first).version
  s.update uri engine (calls first.other).changes (calls first.other).version

/-- After some of the sections a race is as described. -/
def Passes (p : Race → Prop) (schedule : List Side) : Prop :=
  ∃ before after, schedule = before ++ after ∧ p (race engine uri calls s before)

/-- The other call begins only when the first is done. -/
def Follows (schedule : List Side) (first : Side) : Prop :=
  Passes engine uri calls s (fun r => r.stage first = .done ∧ r.stage first.other = .waiting) schedule

/-- The other call has begun before the first is done. -/
def Overlaps (schedule : List Side) (first : Side) : Prop :=
  Passes engine uri calls s (fun r => r.stage first ≠ .done ∧ r.stage first.other ≠ .waiting) schedule

end Race

variable {engine : Engine} {uri : Uri} {calls : Side → Call} {s s' origin : Store} {c : Call}
  {stage stage' : Stage} {schedule : List Side} {side first : Side}

inductive Advances (engine : Engine) (uri : Uri) (c : Call) (s : Store) : Stage → Store → Stage → Prop where
  | prepared {span r edit text} (lone : c.changes = [⟨some span, r⟩]) (h : s.prepare uri span r = .ok (edit, text)) :
    Advances engine uri c s .waiting s (.prepared edit text)
  | updated {next : Store} (h : s.update uri engine c.changes c.version = .ok next) :
    Advances engine uri c s .waiting next .done
  | applied {edit text} {next : Store} (h : s.edit uri engine edit text c.version = .ok next) :
    Advances engine uri c s (.prepared edit text) next .done
  | done : Advances engine uri c s .done s .done
  | failed {before : Stage} {e} (h : before ≠ .done) : Advances engine uri c s before s (.failed e)

theorem advances_advance (c : Call) (s : Store) (stage : Stage) :
    Advances engine uri c s stage (c.advance engine uri s stage).1 (c.advance engine uri s stage).2 := by
  unfold Call.advance
  split
  · split
    · next hlone =>
      split
      · next h => exact .prepared hlone h
      · exact .failed nofun
    · cases h : s.update uri engine c.changes c.version with
      | ok s' => exact .updated h
      | error e => exact .failed nofun
  · next edit text =>
    cases h : s.edit uri engine edit text c.version with
    | ok s' => exact .applied h
    | error e => exact .failed nofun
  · exact .done
  · exact .failed nofun

theorem update_eq_edit {span : Span} {r : Text} {edit : Edit} {text : Text} (lone : c.changes = [⟨some span, r⟩])
    (h : s.prepare uri span r = .ok (edit, text)) :
    s.update uri engine c.changes c.version = s.edit uri engine edit text c.version := by
  rw [lone, update, h]
  rfl

/-- A call that is not interrupted does what an update does. -/
theorem advance_advance (engine : Engine) (uri : Uri) (c : Call) (s : Store) :
    c.advance engine uri (c.advance engine uri s .waiting).1 (c.advance engine uri s .waiting).2 =
      s.conclude (s.update uri engine c.changes c.version) := by
  have hconclude (x : Except Error Store) :
      c.advance engine uri (s.conclude x).1 (s.conclude x).2 = s.conclude x := by
    cases x <;> rfl
  rw [Call.advance]
  split
  · next span r hlone =>
    cases h : s.prepare uri span r with
    | ok draft =>
      rw [update_eq_edit hlone h]
      rfl
    | error e =>
      rw [hlone, update, h]
      rfl
  · exact hconclude _

/-- A call has read one store and no other. -/
def Call.ReadFrom (uri : Uri) (c : Call) (s : Store) : Stage → Prop
  | .waiting => True
  | .prepared edit text => ∃ span r, c.changes = [⟨some span, r⟩] ∧ s.prepare uri span r = .ok (edit, text)
  | .done => False
  | .failed _ => False

theorem Advances.update_eq_ok (h : Advances engine uri c s stage s' .done) (hread : c.ReadFrom uri s stage) :
    s.update uri engine c.changes c.version = .ok s' := by
  cases h with
  | updated h => exact h
  | applied h =>
    obtain ⟨span,r,hlone,hprepare⟩ := hread
    rw [update_eq_edit hlone hprepare]
    exact h
  | done => cases hread

theorem Side.other_ne (side : Side) : side.other ≠ side := by cases side <;> decide

theorem Side.other_other (side : Side) : side.other.other = side := by cases side <;> rfl

theorem Side.eq_or_eq_other (side first : Side) : side = first ∨ side = first.other := by
  cases side <;> cases first <;> decide

section Race

theorem Race.advances_step (engine : Engine) (uri : Uri) (calls : Side → Call) (r : Race) (side : Side) :
    Advances engine uri (calls side) r.store (r.stage side) (r.step engine uri calls side).store
        ((r.step engine uri calls side).stage side) ∧
      (r.step engine uri calls side).stage side.other = r.stage side.other := by
  have hadvances : Advances engine uri (calls side) r.store (r.stage side) _ _ := advances_advance ..
  constructor
  · simpa [step] using hadvances
  · exact Function.update_of_ne side.other_ne _ _

theorem race_append_singleton (schedule : List Side) (side : Side) :
    race engine uri calls s (schedule ++ [side]) =
      (race engine uri calls s schedule).step engine uri calls side := by
  rw [race, List.foldl_append]
  rfl

theorem Advances.eq_of_done (h : Advances engine uri c s .done s' stage) : s' = s ∧ stage = .done := by
  cases h with
  | done => exact ⟨rfl,rfl⟩
  | failed hne => exact absurd rfl hne

theorem Advances.eq_of_prepared {edit : Edit} {text : Text}
    (h : Advances engine uri c s stage s' (.prepared edit text)) :
    s' = s ∧ stage = .waiting ∧ c.ReadFrom uri s (.prepared edit text) := by
  cases h with
  | prepared hlone hprepare => exact ⟨rfl,rfl,_,_,hlone,hprepare⟩

theorem Advances.exists_edit (h : Advances engine uri c s stage s' .done) (hread : c.ReadFrom uri origin stage)
    (hbegun : stage ≠ .waiting) :
    ∃ edit text, c.ReadFrom uri origin (.prepared edit text) ∧
      s.edit uri engine edit text c.version = .ok s' := by
  cases h with
  | updated _ => exact absurd rfl hbegun
  | applied h => exact ⟨_,_,hread,h⟩
  | done => cases hread

theorem Advances.exists_failed {e : Error} (h : Advances engine uri c s (.failed e) s' stage) :
    ∃ e', stage = .failed e' := by
  cases h with
  | failed _ => exact ⟨_,rfl⟩

theorem Advances.ne_waiting (h : Advances engine uri c s stage s' stage') : stage' ≠ .waiting := by
  cases h <;> exact nofun

theorem stage_append {before : List Side} (side : Side) (after : List Side) :
    ((race engine uri calls s before).stage side = .done →
      (race engine uri calls s (before ++ after)).stage side = .done) ∧
    ((race engine uri calls s before).stage side ≠ .waiting →
      (race engine uri calls s (before ++ after)).stage side ≠ .waiting) := by
  induction after using List.reverseRecOn with
  | nil => simp
  | append_singleton after last ih =>
    rw [← List.append_assoc, race_append_singleton]
    generalize race engine uri calls s (before ++ after) = r at ih ⊢
    obtain ⟨hadvances,hother⟩ := r.advances_step engine uri calls last
    rcases Side.eq_or_eq_other side last with rfl | rfl
    · refine ⟨?_,fun _ => hadvances.ne_waiting⟩
      intro hdone
      rw [ih.1 hdone] at hadvances
      exact hadvances.eq_of_done.2
    · rw [hother]
      exact ih

theorem Passes.append {p : Race → Prop} (h : Passes engine uri calls s p schedule) (later : List Side) :
    Passes engine uri calls s p (schedule ++ later) := by
  obtain ⟨before,after,rfl,hrace⟩ := h
  exact ⟨before,after ++ later,List.append_assoc ..,hrace⟩

theorem Overlaps.ne_waiting (h : Overlaps engine uri calls s schedule first) :
    (race engine uri calls s schedule).stage first.other ≠ .waiting := by
  obtain ⟨before,after,rfl,_,hother⟩ := h
  exact (stage_append first.other after).2 hother

theorem Overlaps.not_follows (h : Overlaps engine uri calls s schedule first) :
    ¬ Follows engine uri calls s schedule first := by
  rintro ⟨before',after',hsplit',hdone,hwaiting⟩
  obtain ⟨before,after,rfl,hfirst,hother⟩ := h
  have hbefore : before <+: before ++ after := List.prefix_append ..
  have hbefore' : before' <+: before ++ after := ⟨after',hsplit'.symm⟩
  rcases List.prefix_or_prefix_of_prefix hbefore hbefore' with ⟨more,rfl⟩ | ⟨more,rfl⟩
  · exact (stage_append first.other more).2 hother hwaiting
  · exact hfirst ((stage_append first more).1 hdone)

/-- Where a race stands: no call is done yet and each has read the store as it was, or one has failed, or one is
done and the other has read what it left or what it found, or both are done. -/
inductive Reached (engine : Engine) (uri : Uri) (calls : Side → Call) (s : Store) (schedule : List Side)
    (r : Race) : Prop where
  | pending (hstore : r.store = s) (hread : ∀ side, (calls side).ReadFrom uri s (r.stage side))
  | failed {side : Side} {e : Error} (h : r.stage side = .failed e)
  | half {first : Side} {origin : Store}
      (hfirst : s.update uri engine (calls first).changes (calls first).version = .ok r.store)
      (hdone : r.stage first = .done) (hread : (calls first.other).ReadFrom uri origin (r.stage first.other))
      (horigin : Follows engine uri calls s schedule first ∧ origin = r.store ∨
        Overlaps engine uri calls s schedule first ∧ origin = s)
  | both {first : Side} {left : Store}
      (hfirst : s.update uri engine (calls first).changes (calls first).version = .ok left)
      (hdone : ∀ side, r.stage side = .done)
      (hother : Follows engine uri calls s schedule first ∧
          left.update uri engine (calls first.other).changes (calls first.other).version = .ok r.store ∨
        Overlaps engine uri calls s schedule first ∧ ∃ edit text,
          (calls first.other).ReadFrom uri s (.prepared edit text) ∧
          left.edit uri engine edit text (calls first.other).version = .ok r.store)

section Step

variable {r r' : Race}

theorem forall_side {p : Side → Prop} (hself : p side) (hother : p side.other) (side' : Side) : p side' := by
  rcases side'.eq_or_eq_other side with rfl | rfl
  · exact hself
  · exact hother

theorem reached_of_pending (hr : race engine uri calls s schedule = r)
    (hr' : race engine uri calls s (schedule ++ [side]) = r')
    (hread : ∀ side, (calls side).ReadFrom uri s (r.stage side))
    (hadvances : Advances engine uri (calls side) s (r.stage side) r'.store (r'.stage side))
    (hunmoved : r'.stage side.other = r.stage side.other) :
    Reached engine uri calls s (schedule ++ [side]) r' := by
  have hother := hread side.other
  rw [← hunmoved] at hother
  cases hstage : r'.stage side with
  | waiting => exact absurd hstage hadvances.ne_waiting
  | failed e => exact .failed hstage
  | prepared edit text =>
    rw [hstage] at hadvances
    obtain ⟨hsame,_,hprepared⟩ := hadvances.eq_of_prepared
    refine .pending hsame (forall_side ?_ hother)
    rw [hstage]
    exact hprepared
  | done =>
    rw [hstage] at hadvances
    have hfirst := hadvances.update_eq_ok (hread side)
    -- this call is the first that is done, and the other one has begun by now or has not
    by_cases hwaiting : r'.stage side.other = .waiting
    · rw [hwaiting] at hother
      refine .half hfirst hstage (by rw [hwaiting]; trivial) (.inl ⟨?_,rfl⟩)
      subst hr'
      exact ⟨_,[],(List.append_nil _).symm,hstage,hwaiting⟩
    · refine .half hfirst hstage hother (.inr ⟨?_,rfl⟩)
      have hnot : r.stage side ≠ .done := by
        intro hdone
        have hself := hread side
        rw [hdone] at hself
        cases hself
      rw [hunmoved] at hwaiting
      subst hr
      exact ⟨_,[side],rfl,hnot,hwaiting⟩

theorem reached_of_half (hschedule : race engine uri calls s schedule = r)
    (hfirst : s.update uri engine (calls first).changes (calls first).version = .ok r.store)
    (hread : (calls first.other).ReadFrom uri origin (r.stage first.other))
    (horigin : Follows engine uri calls s schedule first ∧ origin = r.store ∨
      Overlaps engine uri calls s schedule first ∧ origin = s)
    (hadvances : Advances engine uri (calls first.other) r.store (r.stage first.other) r'.store
      (r'.stage first.other)) (hdone : r'.stage first = .done) :
    Reached engine uri calls s (schedule ++ [first.other]) r' := by
  cases hstage : r'.stage first.other with
  | waiting => exact absurd hstage hadvances.ne_waiting
  | failed e => exact .failed hstage
  | prepared edit text =>
    rw [hstage] at hadvances
    obtain ⟨hsame,hwaiting,hprepared⟩ := hadvances.eq_of_prepared
    rcases horigin with ⟨hfollows,rfl⟩ | ⟨hoverlaps,_⟩
    · rw [← hsame] at hprepared hfirst
      refine .half hfirst hdone ?_ (.inl ⟨hfollows.append _,rfl⟩)
      rw [hstage]
      exact hprepared
    · rw [← hschedule] at hwaiting
      exact absurd hwaiting hoverlaps.ne_waiting
  | done =>
    rw [hstage] at hadvances
    refine .both hfirst (forall_side hdone hstage) ?_
    rcases horigin with ⟨hfollows,rfl⟩ | ⟨hoverlaps,rfl⟩
    · exact .inl ⟨hfollows.append _,hadvances.update_eq_ok hread⟩
    · refine .inr ⟨hoverlaps.append _,?_⟩
      have hne := hoverlaps.ne_waiting
      rw [hschedule] at hne
      exact hadvances.exists_edit hread hne

end Step

theorem Reached.append_singleton (h : Reached engine uri calls s schedule (race engine uri calls s schedule))
    (side : Side) :
    Reached engine uri calls s (schedule ++ [side]) (race engine uri calls s (schedule ++ [side])) := by
  obtain ⟨hadvances,hunmoved⟩ := (race engine uri calls s schedule).advances_step engine uri calls side
  rw [← race_append_singleton] at hadvances hunmoved
  cases h with
  | pending hstore hread =>
    rw [hstore] at hadvances
    exact reached_of_pending rfl rfl hread hadvances hunmoved
  | @failed side' e h =>
    rcases side'.eq_or_eq_other side with rfl | rfl
    · rw [h] at hadvances
      obtain ⟨_,hfailed⟩ := hadvances.exists_failed
      exact .failed hfailed
    · exact .failed (hunmoved.trans h)
  | @half first origin hfirst hdone hread horigin =>
    rcases side.eq_or_eq_other first with rfl | rfl
    · rw [hdone] at hadvances
      obtain ⟨hsame,hstill⟩ := hadvances.eq_of_done
      rw [← hsame] at hfirst horigin
      rw [← hunmoved] at hread
      exact .half hfirst hstill hread (horigin.imp (And.imp_left (·.append _)) (And.imp_left (·.append _)))
    · rw [Side.other_other] at hunmoved
      exact reached_of_half rfl hfirst hread horigin hadvances (hunmoved.trans hdone)
  | both hfirst hdone hother =>
    rw [hdone side] at hadvances
    obtain ⟨hsame,hstill⟩ := hadvances.eq_of_done
    rw [← hsame] at hother
    refine .both hfirst (forall_side hstill (hunmoved.trans (hdone _))) ?_
    exact hother.imp (And.imp_left (·.append _)) (And.imp_left (·.append _))

theorem reached_race (engine : Engine) (uri : Uri) (calls : Side → Call) (s : Store) (schedule : List Side) :
    Reached engine uri calls s schedule (race engine uri calls s schedule) := by
  induction schedule using List.reverseRecOn with
  | nil => exact .pending rfl fun _ => trivial
  | append_singleton schedule side ih => exact ih.append_singleton side

end Race

section Outcome

variable {d : Document}

theorem version_of_perform? {op : Operation} {version : Int} (revises : op.revision? = some (uri, version))
    (h : s.perform? engine op = .ok s') :
    (∃ d, s.find? uri = some d ∧ d.version < version) ∧ ∃ d, s'.find? uri = some d ∧ d.version = version := by
  cases outcome_of_perform? h with
  | opened _ => cases revises
  | closed => cases revises
  | revised revises' found newer _ =>
    cases revises.symm.trans revises'
    exact ⟨⟨_,found,newer⟩,_,find?_insert_self ..,rfl⟩

theorem change?_of_prepare {span : Span} {r : Text} {edit : Edit} {text : Text} (found : s.find? uri = some d)
    (h : s.prepare uri span r = .ok (edit, text)) : d.text.change? ⟨some span, r⟩ = some text := by
  obtain ⟨d',hd,h⟩ := bind_eq_ok h
  cases found.symm.trans (get_eq_ok_iff.1 hd)
  obtain ⟨edit',hedit,h⟩ := bind_eq_ok h
  cases h
  rw [← Edit.apply_ofSpan, ← toOption_mapError, hedit]
  rfl

theorem text_of_edit {edit : Edit} {text : Text} {version : Int}
    (h : s.edit uri engine edit text version = .ok s') : (s'.find? uri).map (·.text) = some text := by
  obtain ⟨d,_,h⟩ := bind_eq_ok h
  obtain ⟨_,_,h⟩ := bind_eq_ok h
  obtain ⟨_,_,h⟩ := bind_eq_ok h
  obtain ⟨tree,_,h⟩ := bind_eq_ok h
  cases h
  simp [Document.ofTree]

/-- Two calls upon an open document that are both done leave what they do one after the other, in the order of
their versions, if the second began when the first was done. Else the second is a lone change of a span, and the
text is what it makes of the text from before either of them: the first is lost. -/
theorem race_inTurn_or_lost (engine : Engine) (found : s.find? uri = some d) (calls : Side → Call)
    (schedule : List Side) (hdone : ∀ side, (race engine uri calls s schedule).stage side = .done) :
    ∃ first, (calls first).version < (calls first.other).version ∧
      (Follows engine uri calls s schedule first ∧
          inTurn engine uri calls s first = .ok (race engine uri calls s schedule).store ∨
        ¬ Follows engine uri calls s schedule first ∧ ∃ span r text,
          (calls first.other).changes = [⟨some span, r⟩] ∧ d.text.change? ⟨some span, r⟩ = some text ∧
          ((race engine uri calls s schedule).store.find? uri).map (·.text) = some text) := by
  cases reached_race engine uri calls s schedule with
  | pending _ hread =>
    have hleft := hread .left
    rw [hdone] at hleft
    cases hleft
  | failed h => cases (hdone _).symm.trans h
  | half _ _ hread _ =>
    rw [hdone] at hread
    cases hread
  | @both first left hfirst _ hother =>
    have hperformed : s.perform? engine (.update uri (calls first).changes (calls first).version) = .ok left :=
      hfirst
    obtain ⟨_,d₁,hd₁,hversion⟩ := version_of_perform? rfl hperformed
    -- the second call succeeds upon what the first has left, whatever it has read
    have hnewer (op : Operation) {later : Store} (revises : op.revision? = some (uri, (calls first.other).version))
        (h : left.perform? engine op = .ok later) : (calls first).version < (calls first.other).version := by
      obtain ⟨⟨d₂,hd₂,hlt⟩,_⟩ := version_of_perform? revises h
      cases hd₁.symm.trans hd₂
      rwa [hversion] at hlt
    rcases hother with ⟨hfollows,hupdate⟩ | ⟨hoverlaps,edit,text,⟨span,r,hlone,hprepare⟩,hedit⟩
    · refine ⟨first,hnewer (.update uri _ _) rfl hupdate,.inl ⟨hfollows,?_⟩⟩
      rw [inTurn, hfirst]
      exact hupdate
    · refine ⟨first,hnewer (.edit uri edit text _) rfl hedit,.inr ⟨hoverlaps.not_follows,span,r,text,hlone,?_⟩⟩
      exact ⟨change?_of_prepare found hprepare,text_of_edit hedit⟩

end Outcome

section Sample

/-- Two insertions at one place, as if from two hands. -/
def twoInserts : Side → Call
  | .left => ⟨[⟨some ⟨⟨0, 1⟩, ⟨0, 1⟩⟩, "1".toList⟩], 2⟩
  | .right => ⟨[⟨some ⟨⟨0, 1⟩, ⟨0, 1⟩⟩, "2".toList⟩], 3⟩

def brackets : Store :=
  insert {} (.untitled ['a']) (.ofTree .json "[]".toList (Engine.tokenlessTree "[]".toList) 1)

/-- The second insertion begins when the first is done, and both are in the text. -/
theorem race_inTurn_or_lost_twoInserts :
    let d := Document.ofTree .json "[]".toList (Engine.tokenlessTree "[]".toList) 1
    let last := race .tokenless (.untitled ['a']) twoInserts brackets [.left, .left, .right, .right]
    brackets.find? (.untitled ['a']) = some d ∧ (∀ side, last.stage side = .done) ∧
    inTurn .tokenless (.untitled ['a']) twoInserts brackets .left = .ok last.store ∧
    (last.store.find? (.untitled ['a'])).map (·.text) = some "[21]".toList := by
  intro d last
  have found : brackets.find? (.untitled ['a']) = some d := rfl
  have hdone : ∀ side, last.stage side = .done := by
    intro side
    cases side <;> decide +kernel
  have hfollows : Follows .tokenless (.untitled ['a']) twoInserts brackets [.left, .left, .right, .right] .left :=
    ⟨[.left, .left],_,rfl,by decide +kernel,by decide +kernel⟩
  obtain ⟨first,hversion,h⟩ := race_inTurn_or_lost .tokenless found twoInserts _ hdone
  refine ⟨found,hdone,?_,by decide +kernel⟩
  cases first with
  | right => exact absurd hversion (by decide)
  | left =>
    rcases h with ⟨_,hturn⟩ | ⟨hnot,_⟩
    · exact hturn
    · exact absurd hfollows hnot

/-- Two updates are interleaved, each of a lone insertion that is prepared before the other is applied. The first is
applied, and then the edit that the second has prepared, in the section which that update has for itself. Both succeed,
and the text is that of neither order: one of the two characters is gone. -/
theorem race_twoInserts_lost :
    let last := race .tokenless (.untitled ['a']) twoInserts brackets [.left, .right, .left, .right]
    (brackets.find? (.untitled ['a'])).isSome ∧ (twoInserts .left).version ≠ (twoInserts .right).version ∧
    (∀ side, last.stage side = .done) ∧
    ∀ first store, inTurn .tokenless (.untitled ['a']) twoInserts brackets first = .ok store →
      (store.find? (.untitled ['a'])).map (·.text) ≠ (last.store.find? (.untitled ['a'])).map (·.text) := by
  intro last
  have hlast : (last.store.find? (.untitled ['a'])).map (·.text) = some "[2]".toList := by decide +kernel
  have hleft : ((inTurn .tokenless (.untitled ['a']) twoInserts brackets .left).toOption.bind
      (·.find? (.untitled ['a']))).map (·.text) = some "[21]".toList := by decide +kernel
  have hright : (inTurn .tokenless (.untitled ['a']) twoInserts brackets .right).toOption.isNone := by
    decide +kernel
  refine ⟨by decide +kernel,by decide,?_,?_⟩
  · intro side
    cases side <;> decide +kernel
  · intro first store h
    rw [hlast]
    cases first with
    | left =>
      rw [h, toOption_ok, Option.bind_some] at hleft
      rw [hleft]
      decide
    | right =>
      rw [h] at hright
      cases hright

end Sample

end SyntaxServer.Store
