import SyntaxServer.Session.Params
import SyntaxServer.Proofs.Result

/-! # What params name

The params of every method on documents name the document in the same place, so it can be told before they are
decoded, and from some that cannot be decoded.
-/
namespace SyntaxServer

open Json

/-- The first field of a record, which an object has by its name and an array by its place. -/
def Json.leading? (name : String) : Json → Option Json
  | .array items => items.head?
  | v => v.get? name

/-- The document that params name. -/
def Json.documentUri? (params : Json) : Option Uri := do
  let document ← params.leading? "textDocument"
  let uri ← document.leading? "uri"
  asUri uri

variable {α : Type} {decode : Decoder α} {a : α} {params v : Json} {name method : String} {names : List String}
  {r : Record} {uri : Uri}

theorem field?_of_asRecord (h : asRecord (name :: names) v = some r) : r.field? name = v.leading? name := by
  unfold asRecord at h
  split at h
  · cases h
    rfl
  · next items =>
    split at h
    · cases h
      cases items with
      | nil => rfl
      | cons item items => simp [Record.ofItems, leading?]
    · cases h
  · cases h

theorem field?_of_asObjectRecord (h : asObjectRecord v = some r) (name : String) :
    r.field? name = v.leading? name := by
  unfold asObjectRecord at h
  split at h
  · cases h
    rfl
  · cases h

theorem documentUri?_of_required {d : Record} (hfield : r.field? "textDocument" = params.leading? "textDocument")
    (hd : r.required "textDocument" (asRecord ("uri" :: names)) = some d) (huri : d.required "uri" asUri = some uri) :
    params.documentUri? = some uri := by
  obtain ⟨v,hv,hd⟩ := Option.bind_eq_some_iff.1 hd
  obtain ⟨w,hw,hwuri⟩ := Option.bind_eq_some_iff.1 huri
  rw [hfield] at hv
  rw [field?_of_asRecord hd] at hw
  simp [documentUri?, hv, hw, hwuri]

theorem documentUri?_of_documentUri (hfield : r.field? "textDocument" = params.leading? "textDocument")
    (h : r.required "textDocument" documentUri = some uri) : params.documentUri? = some uri := by
  obtain ⟨v,hv,h⟩ := Option.bind_eq_some_iff.1 h
  obtain ⟨d,hd,huri⟩ := Option.bind_eq_some_iff.1 h
  exact documentUri?_of_required hfield (Option.bind_eq_some_iff.2 ⟨v,hv,hd⟩) huri

/-- The parts from which the params of an opening are put together. -/
theorem OpenParams.exists_parts {p : OpenParams} (h : OpenParams.ofJson params = some p) :
    ∃ r d, asRecord ["textDocument"] params = some r ∧
      r.required "textDocument" (asRecord ["uri", "languageId", "version", "text"]) = some d ∧
      d.required "uri" asUri = some p.uri ∧ d.required "languageId" asText = some p.languageId ∧
      d.required "version" asInt32 = some p.version ∧ d.required "text" asText = some p.text := by
  obtain ⟨r,hr,h⟩ := Option.bind_eq_some_iff.1 h
  obtain ⟨d,hd,h⟩ := Option.bind_eq_some_iff.1 h
  obtain ⟨uri,huri,h⟩ := Option.bind_eq_some_iff.1 h
  obtain ⟨languageId,hlanguage,h⟩ := Option.bind_eq_some_iff.1 h
  obtain ⟨version,hversion,h⟩ := Option.bind_eq_some_iff.1 h
  obtain ⟨text,htext,h⟩ := Option.bind_eq_some_iff.1 h
  cases h
  exact ⟨r,d,hr,hd,huri,hlanguage,hversion,htext⟩

/-- The parts from which the params of a change are put together. -/
theorem ChangeParams.exists_parts {p : ChangeParams} (h : ChangeParams.ofJson params = some p) :
    ∃ r d, asRecord ["textDocument", "contentChanges"] params = some r ∧
      r.required "textDocument" (asRecord ["uri", "version"]) = some d ∧
      d.required "uri" asUri = some p.uri ∧ d.required "version" asInt32 = some p.version ∧
      r.required "contentChanges" (asListOf Change.ofJson) = some p.changes := by
  obtain ⟨r,hr,h⟩ := Option.bind_eq_some_iff.1 h
  obtain ⟨d,hd,h⟩ := Option.bind_eq_some_iff.1 h
  obtain ⟨uri,huri,h⟩ := Option.bind_eq_some_iff.1 h
  obtain ⟨version,hversion,h⟩ := Option.bind_eq_some_iff.1 h
  obtain ⟨changes,hchanges,h⟩ := Option.bind_eq_some_iff.1 h
  cases h
  exact ⟨r,d,hr,hd,huri,hversion,hchanges⟩

variable [Codec]

theorem decodeParams_eq_ok_iff : decodeParams method decode params = .ok a ↔ decode params = some a := by
  unfold decodeParams
  cases decode params with
  | none => simp
  | some p => simp

theorem decodeParams_eq_error_iff {e : Error} : decodeParams method decode params = .error e ↔
    decode params = none ∧ e = .invalidParams (method ++ ": " ++ Codec.refusal method params) := by
  unfold decodeParams
  cases decode params with
  | none => simp [eq_comm]
  | some p => simp

theorem documentUri?_openParams {p : OpenParams} (h : decodeParams method OpenParams.ofJson params = .ok p) :
    params.documentUri? = some p.uri := by
  obtain ⟨r,d,hr,hd,huri,_⟩ := OpenParams.exists_parts (decodeParams_eq_ok_iff.1 h)
  exact documentUri?_of_required (field?_of_asRecord hr) hd huri

theorem documentUri?_changeParams {p : ChangeParams} (h : decodeParams method ChangeParams.ofJson params = .ok p) :
    params.documentUri? = some p.uri := by
  obtain ⟨r,d,hr,hd,huri,_⟩ := ChangeParams.exists_parts (decodeParams_eq_ok_iff.1 h)
  exact documentUri?_of_required (field?_of_asRecord hr) hd huri

theorem documentUri?_closeParams {p : CloseParams} (h : decodeParams method CloseParams.ofJson params = .ok p) :
    params.documentUri? = some p.uri := by
  obtain ⟨r,hr,h⟩ := Option.bind_eq_some_iff.1 (decodeParams_eq_ok_iff.1 h)
  obtain ⟨uri,huri,h⟩ := Option.bind_eq_some_iff.1 h
  cases h
  exact documentUri?_of_documentUri (field?_of_asRecord hr) huri

theorem documentUri?_hoverParams {p : HoverParams} (h : decodeParams method HoverParams.ofJson params = .ok p) :
    params.documentUri? = some p.uri := by
  obtain ⟨r,hr,h⟩ := Option.bind_eq_some_iff.1 (decodeParams_eq_ok_iff.1 h)
  obtain ⟨uri,huri,h⟩ := Option.bind_eq_some_iff.1 h
  obtain ⟨position,_,h⟩ := Option.bind_eq_some_iff.1 h
  obtain ⟨token,_,h⟩ := Option.bind_eq_some_iff.1 h
  cases h
  exact documentUri?_of_documentUri (field?_of_asObjectRecord hr _) huri

theorem documentUri?_foldParams {p : FoldParams} (h : decodeParams method FoldParams.ofJson params = .ok p) :
    params.documentUri? = some p.uri := by
  obtain ⟨r,hr,h⟩ := Option.bind_eq_some_iff.1 (decodeParams_eq_ok_iff.1 h)
  obtain ⟨uri,huri,h⟩ := Option.bind_eq_some_iff.1 h
  obtain ⟨token,_,h⟩ := Option.bind_eq_some_iff.1 h
  obtain ⟨partialToken,_,h⟩ := Option.bind_eq_some_iff.1 h
  cases h
  exact documentUri?_of_documentUri (field?_of_asObjectRecord hr _) huri

end SyntaxServer
