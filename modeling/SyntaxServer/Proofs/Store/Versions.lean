import SyntaxServer.Proofs.Store.InPlace
import SyntaxServer.Proofs.Store.Sample

/-! # Versions of a document

From when a document is opened until it is closed or opened anew, the operations that revise it are accepted with
ascending versions only. An operation that comes twice, or after one that overtook it, is refused the second time
and leaves no trace.
-/
namespace SyntaxServer.Store

/-- Whether an operation opens or closes a document. -/
def Operation.opensOrCloses (uri : Uri) : Operation → Bool
  | openDocument u _ _ _ => u = uri
  | close u => u = uri
  | _ => false

/-- A document is neither closed nor opened anew by any of some operations. -/
def StaysOpen (engine : Engine) (uri : Uri) : Store → List Operation → Prop
  | _, [] => True
  | s, op :: ops =>
    ((s.perform? engine op).isOk → op.opensOrCloses uri = false) ∧ StaysOpen engine uri (s.perform engine op) ops

instance decidableStaysOpen (engine : Engine) (uri : Uri) :
    (s : Store) → (ops : List Operation) → Decidable (StaysOpen engine uri s ops)
  | _, [] => isTrue trivial
  | s, op :: ops =>
    have := decidableStaysOpen engine uri (s.perform engine op) ops
    inferInstanceAs (Decidable (_ ∧ _))

/-- The version to which an operation that succeeds brings a document. -/
def accepted? (engine : Engine) (uri : Uri) (s : Store) (op : Operation) : Option Int :=
  match s.perform? engine op, op.revision? with
  | .ok _, some (u, version) => if u = uri then some version else none
  | _, _ => none

/-- The versions to which operations bring a document, one after the other. -/
def accepted (engine : Engine) (uri : Uri) : Store → List Operation → List Int
  | _, [] => []
  | s, op :: ops => (s.accepted? engine uri op).toList ++ accepted engine uri (s.perform engine op) ops

variable {engine : Engine} {uri : Uri} {s s' : Store} {d : Document} {op : Operation} {ops : List Operation}

theorem perform_of_ok (h : s.perform? engine op = .ok s') : s.perform engine op = s' := by
  rw [perform, h]
  rfl

theorem perform_of_error {e : Error} (h : s.perform? engine op = .error e) : s.perform engine op = s := by
  rw [perform, h]
  rfl

theorem accepted?_of_error {e : Error} (h : s.perform? engine op = .error e) :
    s.accepted? engine uri op = none := by
  rw [accepted?, h]

theorem accepted?_eq_some_iff {version : Int} :
    s.accepted? engine uri op = some version ↔
      op.revision? = some (uri, version) ∧ ∃ s', s.perform? engine op = .ok s' := by
  cases hperform : s.perform? engine op with
  | error e => simp [accepted?_of_error hperform]
  | ok s' =>
    cases hrevision : op.revision? with
    | none => simp [accepted?, hperform, hrevision]
    | some target =>
      obtain ⟨u,v⟩ := target
      by_cases hu : u = uri
      · simp [accepted?, hperform, hrevision, hu]
      · simp [accepted?, hperform, hrevision, hu]

/-- An operation brings a document to a newer version, or it leaves the document as it is. -/
theorem find?_perform (found : s.find? uri = some d)
    (stays : (s.perform? engine op).isOk → op.opensOrCloses uri = false) :
    (∃ version d', s.accepted? engine uri op = some version ∧ d.version < version ∧
      (s.perform engine op).find? uri = some d' ∧ d'.version = version) ∨
    s.accepted? engine uri op = none ∧ (s.perform engine op).find? uri = some d := by
  cases hperform : s.perform? engine op with
  | error e =>
    rw [perform_of_error hperform]
    exact .inr ⟨accepted?_of_error hperform,found⟩
  | ok s' =>
    have hfalse : op.opensOrCloses uri = false := stays (by rw [hperform]; rfl)
    rw [perform_of_ok hperform]
    cases outcome_of_perform? hperform with
    | @opened u _ _ _ _ _ =>
      have hne : uri ≠ u := by
        intro h
        simp [Operation.opensOrCloses, h] at hfalse
      rw [find?_insert_of_ne s hne]
      exact .inr ⟨by simp [accepted?, hperform, Operation.revision?],found⟩
    | @revised _ u version e _ _ _ revises found' newer _ =>
      by_cases hu : uri = u
      · subst hu
        cases found.symm.trans found'
        refine .inl ⟨version,_,?_,newer,find?_insert_self ..,rfl⟩
        exact accepted?_eq_some_iff.2 ⟨revises,_,hperform⟩
      · rw [find?_insert_of_ne s hu]
        refine .inr ⟨?_,found⟩
        simp [accepted?, hperform, revises, Ne.symm hu]
    | @closed u =>
      have hne : uri ≠ u := by
        intro h
        simp [Operation.opensOrCloses, h] at hfalse
      rw [find?_erase_of_ne s hne]
      exact .inr ⟨by simp [accepted?, hperform, Operation.revision?],found⟩

/-- Along operations through which a document stays open, the versions accepted for it ascend from the one it has,
and the last of them is the one it is left with. -/
theorem accepted_ascend (found : s.find? uri = some d) (stays : StaysOpen engine uri s ops) :
    (d.version :: accepted engine uri s ops).Pairwise (· < ·) ∧
      ∃ d', (s.run engine ops).find? uri = some d' ∧
        d'.version = (accepted engine uri s ops).getLastD d.version := by
  induction ops generalizing s d with
  | nil => exact ⟨List.pairwise_singleton _ _,d,found,rfl⟩
  | cons op ops ih =>
    obtain ⟨hop,hops⟩ := stays
    rcases find?_perform found hop with ⟨version,d₁,haccepted,hnewer,hfound,rfl⟩ | ⟨hnone,hfound⟩
    · obtain ⟨hascend,d',hd',hversion⟩ := ih hfound hops
      have hlist : accepted engine uri s (op :: ops) =
          d₁.version :: accepted engine uri (s.perform engine op) ops := by
        simp only [accepted, haccepted, Option.toList_some, List.singleton_append]
      rw [hlist, List.getLastD_cons]
      refine ⟨?_,d',hd',hversion⟩
      refine List.pairwise_cons.2 ⟨?_,hascend⟩
      intro v hv
      rcases List.mem_cons.1 hv with rfl | hv
      · exact hnewer
      · exact Int.lt_trans hnewer (List.rel_of_pairwise_cons hascend hv)
    · have hlist : accepted engine uri s (op :: ops) = accepted engine uri (s.perform engine op) ops := by
        simp only [accepted, hnone, Option.toList_none, List.nil_append]
      rw [hlist]
      exact ih hfound hops

theorem version_le_of_staysOpen (found : s.find? uri = some d) (stays : StaysOpen engine uri s ops) :
    ∃ d', (s.run engine ops).find? uri = some d' ∧ d.version ≤ d'.version := by
  obtain ⟨hascend,d',hd',hversion⟩ := accepted_ascend found stays
  refine ⟨d',hd',?_⟩
  rw [hversion, List.getLastD_eq_getLast?]
  cases hlast : (accepted engine uri s ops).getLast? with
  | none => exact Int.le_refl _
  | some v => exact Int.le_of_lt (List.rel_of_pairwise_cons hascend (List.mem_of_getLast? hlast))

theorem run_append (s : Store) (ops later : List Operation) :
    s.run engine (ops ++ later) = (s.run engine ops).run engine later :=
  List.foldl_append

theorem staysOpen_append {later : List Operation} :
    StaysOpen engine uri s (ops ++ later) ↔
      StaysOpen engine uri s ops ∧ StaysOpen engine uri (s.run engine ops) later := by
  induction ops generalizing s with
  | nil => simp [StaysOpen, run]
  | cons op ops ih =>
    rw [List.cons_append, StaysOpen, StaysOpen, ih, and_assoc]
    rfl

theorem exec_inPlace_of_not_newer (found : s.find? uri = some d) {version : Int}
    (revises : op.revision? = some (uri, version)) (older : version ≤ d.version) :
    ∃ e, Procedure.exec (op.inPlace engine) s = (.error e, s) := by
  cases hperform : s.perform? engine op with
  | error e =>
    refine ⟨e,?_⟩
    rw [exec_inPlace, hperform]
    rfl
  | ok s' =>
    exfalso
    cases outcome_of_perform? hperform with
    | opened _ => cases revises
    | revised revises' found' newer _ =>
      cases revises.symm.trans revises'
      cases found.symm.trans found'
      omega
    | closed => cases revises

/-- While a document stays open, the operations that revise it are accepted with ascending versions, all of them
greater than the one it was opened with, and after each operation its version is the last one accepted. An
operation that is accepted is refused when it comes again at any later moment, as is any other that brings no newer
version than it, and the store is then left as it was. -/
theorem versions_accepted_once (engine : Engine) {s opened : Store} {uri : Uri} {language : Language} {text : Text}
    {version : Int} (hopen : s.openDocument uri engine language text version = .ok opened)
    {ops : List Operation} (stays : StaysOpen engine uri opened ops) :
    (version :: accepted engine uri opened ops).Pairwise (· < ·) ∧
    (∀ seen later, ops = seen ++ later → ∃ d, (opened.run engine seen).find? uri = some d ∧
      d.version = (accepted engine uri opened seen).getLastD version) ∧
    ∀ before op between after v, ops = before ++ op :: between ++ after → op.revision? = some (uri, v) →
      (∃ next, (opened.run engine before).perform? engine op = .ok next) →
      ∀ (again : Operation) (w : Int), again.revision? = some (uri, w) → w ≤ v →
        ∃ e, Procedure.exec (again.inPlace engine) (opened.run engine (before ++ op :: between)) =
          (.error e, opened.run engine (before ++ op :: between)) := by
  obtain ⟨tree,_,hopened⟩ := bind_eq_ok hopen
  cases hopened
  have found := find?_insert_self s uri (.ofTree language text tree version)
  refine ⟨(accepted_ascend found stays).1,?_,?_⟩
  · rintro seen later rfl
    exact (accepted_ascend found (staysOpen_append.1 stays).1).2
  · rintro before op between after v rfl hrevision ⟨next,hnext⟩ again w hagain hle
    have hstays := (staysOpen_append.1 stays).1
    obtain ⟨hbefore,hop,hbetween⟩ := staysOpen_append.1 hstays
    obtain ⟨_,d,hd,_⟩ := accepted_ascend found hbefore
    have haccepted := accepted?_eq_some_iff.2 ⟨hrevision,next,hnext⟩
    -- once it is accepted the document has its version, and from there the versions only rise
    rcases find?_perform hd hop with ⟨_,d₁,hsome,_,hd₁,hv⟩ | ⟨hnone,_⟩
    · cases haccepted.symm.trans hsome
      obtain ⟨d₂,hd₂,hle₂⟩ := version_le_of_staysOpen hd₁ hbetween
      rw [run_append]
      exact exec_inPlace_of_not_newer hd₂ hagain (by omega)
    · cases haccepted.symm.trans hnone

/-- Operations upon a document that is opened anew with a lower version than it had: a change that comes twice, one
that another has overtaken, and traffic of another document in between. -/
def secondOpening : List Operation :=
  let uri := Uri.untitled ['a']
  [.update uri [⟨some ⟨⟨0, 3⟩, ⟨0, 3⟩⟩, "e".toList⟩] (-2),
    .openDocument (.untitled ['b']) .json [] 1,
    .update uri [⟨some ⟨⟨0, 3⟩, ⟨0, 3⟩⟩, "e".toList⟩] (-2),
    .replace uri " ".toList 4,
    .update uri [⟨none, "tru".toList⟩, ⟨none, "true".toList⟩] 0,
    .close (.untitled ['b']),
    .edit uri ⟨1, 1, 2, ⟨0, 1⟩, ⟨0, 1⟩, ⟨1, 0⟩⟩ " \n".toList 9]

theorem versions_accepted_once_secondOpening :
    let uri := Uri.untitled ['a']
    let first := insert {} uri (.ofTree .json "x".toList (Engine.tokenlessTree "x".toList) 12)
    let opened := insert {} uri (.ofTree .json "tru".toList (Engine.tokenlessTree "tru".toList) (-3))
    first.openDocument uri .tokenless .json "tru".toList (-3) = .ok opened ∧
    StaysOpen .tokenless uri opened secondOpening ∧
    [(-3 : Int), -2, 4, 9].Pairwise (· < ·) ∧
    (∃ d, (opened.run .tokenless secondOpening).find? uri = some d ∧ d.version = 9) ∧
    ∃ e, Procedure.exec (Operation.inPlace .tokenless
        (.update uri [⟨some ⟨⟨0, 3⟩, ⟨0, 3⟩⟩, "e".toList⟩] (-2))) (opened.run .tokenless secondOpening) =
      (.error e, opened.run .tokenless secondOpening) := by
  intro uri first opened
  have hopen : first.openDocument uri .tokenless .json "tru".toList (-3) = .ok opened := rfl
  have hstays : StaysOpen .tokenless uri opened secondOpening := by decide +kernel
  have haccepted : accepted .tokenless uri opened secondOpening = [-2, 4, 9] := by decide +kernel
  obtain ⟨hascend,hversion,hagain⟩ := versions_accepted_once .tokenless hopen hstays
  have hlast := hversion secondOpening [] (List.append_nil _).symm
  rw [haccepted] at hascend hlast
  refine ⟨hopen,hstays,hascend,hlast,?_⟩
  exact hagain [] _ (secondOpening.drop 1) [] (-2) rfl rfl ⟨_,rfl⟩ _ (-2) rfl (Int.le_refl _)

end SyntaxServer.Store
