import Mathlib.Tactic.ByContra
import SyntaxServer.Session.Message

/-! # What is read as a call

A value that can be read as a call is one, and a call that names no method is one of the empty method. So a response is
told as such only where it has a part that no call can have.
-/
namespace SyntaxServer.Message

open Json

variable {v : Json} {m : Message} {ms : List (String × Json)} {version method params id : Option Json}

theorem callOfParts?_eq_some_iff : callOfParts? version method params id = some m ↔
    (version >>= asString) = some "2.0" ∧ ∃ name, methodOf? method = some name ∧
      (id = none ∧ m = .notification name (params.getD .null) ∨
        ∃ w i, id = some w ∧ Id.ofJson? w = some i ∧ m = .request i name (params.getD .null)) := by
  unfold callOfParts?
  cases hversion : version >>= asString with
  | none => simp
  | some version =>
    cases hmethod : methodOf? method with
    | none => simp
    | some name =>
      by_cases h : version = "2.0"
      · cases id <;> simp [h, Option.map_eq_some_iff, eq_comm (a := m)]
      · simp [h]

theorem call?_object : call? (.object ms) =
    if occurrences "jsonrpc" ms ≤ 1 ∧ occurrences "method" ms ≤ 1 ∧ occurrences "params" ms ≤ 1 ∧
        occurrences "id" ms ≤ 1 then
      callOfParts? (lookupLast "jsonrpc" ms) (lookupLast "method" ms) (lookupLast "params" ms) (lookupLast "id" ms)
    else none := by
  simp [call?]

theorem exists_parts_of_call? (h : call? v = some m) :
    ∃ version method params id, callOfParts? version method params id = some m := by
  unfold call? at h
  split at h
  · split at h
    · exact ⟨_,_,_,_,h⟩
    · cases h
  · split at h
    · exact ⟨_,_,_,_,h⟩
    · cases h
  · cases h

theorem call?_ne_response : call? v ≠ some .response := by
  intro h
  obtain ⟨_,_,_,_,h⟩ := exists_parts_of_call? h
  obtain ⟨_,_,_,⟨_,h⟩ | ⟨_,_,_,_,h⟩⟩ := callOfParts?_eq_some_iff.1 h
  · cases h
  · cases h

theorem call?_of_ofJson? (h : ofJson? v = some m) (hm : m ≠ .response) : call? v = some m := by
  unfold ofJson? at h
  split at h
  · next hcall => exact hcall.trans h
  · split at h
    · exact absurd (Option.some.inj h).symm hm
    · cases h

/-- Members of which no call can be made though there is an id: the method or the params are given twice, or the method
is no string. -/
def SpoilsCall (ms : List (String × Json)) : Prop :=
  1 < occurrences "method" ms ∨ 1 < occurrences "params" ms ∨ methodOf? (lookupLast "method" ms) = none

theorem call?_of_spoilsCall (h : SpoilsCall ms) : call? (.object ms) = none := by
  rw [Option.eq_none_iff_forall_ne_some]
  intro m hm
  rw [call?_object] at hm
  split at hm
  · next hparts =>
    obtain ⟨_,name,hname,_⟩ := callOfParts?_eq_some_iff.1 hm
    rcases h with h | h | h
    · omega
    · omega
    · rw [h] at hname
      cases hname
  · cases hm

/-- A response is read as a request wherever nothing keeps it from being one. -/
theorem call?_of_isResponse (h : isResponse (.object ms) = true) (hcall : ¬ SpoilsCall ms) :
    ∃ id name, (lookupLast "id" ms >>= Id.ofJson?) = some id ∧ methodOf? (lookupLast "method" ms) = some name ∧
      call? (.object ms) = some (.request id name ((lookupLast "params" ms).getD .null)) := by
  simp only [isResponse, Bool.and_eq_true, beq_iff_eq, Option.any_eq_true] at h
  obtain ⟨⟨⟨⟨hversions,hids⟩,hversion⟩,w,hw,hid⟩,_⟩ := h
  obtain ⟨id,hid⟩ := Option.isSome_iff_exists.1 hid
  simp only [SpoilsCall, not_or] at hcall
  obtain ⟨hmethods,hparams,hmethod⟩ := hcall
  obtain ⟨name,hname⟩ := Option.ne_none_iff_exists'.1 hmethod
  refine ⟨id,name,by rw [hw]; exact hid,hname,?_⟩
  rw [call?_object, if_pos (by omega)]
  exact callOfParts?_eq_some_iff.2 ⟨hversion,name,hname,.inr ⟨w,id,hw,hid,rfl⟩⟩

/-- What is told as a response has a part that no call can have. -/
theorem ofJson?_eq_response_iff :
    ofJson? v = some .response ↔ ∃ ms, v = .object ms ∧ isResponse v = true ∧ SpoilsCall ms := by
  have hcall : ofJson? v = some .response ↔ call? v = none ∧ isResponse v = true := by
    unfold ofJson?
    cases hv : call? v with
    | none => simp
    | some m =>
      have hm : m ≠ .response := fun h => call?_ne_response (h ▸ hv)
      simp [hm]
  rw [hcall]
  constructor
  · rintro ⟨hnone,h⟩
    cases v with
    | object ms =>
      refine ⟨ms,rfl,h,?_⟩
      by_contra hno
      obtain ⟨_,_,_,_,hsome⟩ := call?_of_isResponse h hno
      rw [hnone] at hsome
      cases hsome
    | _ => cases h
  · rintro ⟨ms,rfl,h,hspoils⟩
    exact ⟨call?_of_spoilsCall hspoils,h⟩

end SyntaxServer.Message
