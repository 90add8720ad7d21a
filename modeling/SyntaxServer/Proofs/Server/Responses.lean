import SyntaxServer.Proofs.Server.Answers

/-! # Responses of a client

Nothing is asked of a client, so its responses are to be passed over. But a response that names no method is read as a
request for the empty one, which there is not, and is answered with an error in every state of the session.
-/
namespace SyntaxServer

open Message

theorem Session.exists_query_empty_eq_error [Codec] (s : Session) (params : Json) :
    ∃ e, s.query "" params = .error e := by
  cases hgate : s.lifecycle.gate "" with
  | error e => exact ⟨e,by simp [query, hgate, error_bind]⟩
  | ok u => exact ⟨.methodNotFound "",by simp [query, hgate, ok_bind]⟩

/-- A response is answered, unless it has a part of a call that no call can have. -/
theorem Turn.answers_of_isResponse [Codec] (engine : Engine) {t : Turn} {ms : List (String × Json)}
    (hsize : t.body.length ≤ Frame.maxBody) (hbody : Json.parseBytes? t.body = some (.object ms))
    (h : isResponse (.object ms) = true) (hcall : ¬ SpoilsCall ms) (hmethod : Json.lookupLast "method" ms = none) :
    ∃ id e, (Json.lookupLast "id" ms >>= Id.ofJson?) = some id ∧ t.answers engine = [response id (.error e)] := by
  obtain ⟨id,name,hid,hname,hrequest⟩ := call?_of_isResponse h hcall
  rw [hmethod] at hname
  cases hname
  have hparse : parse? t.body = some (.request id "" ((Json.lookupLast "params" ms).getD .null)) := by
    rw [parse?, hbody]
    simp [ofJson?, hrequest]
  obtain ⟨e,he⟩ := t.session.exists_query_empty_eq_error ((Json.lookupLast "params" ms).getD .null)
  refine ⟨id,e,hid,?_⟩
  simp [answers, Nat.not_lt.2 hsize, hparse, Session.step, Session.request, he]

section Stray

attribute [local instance] Codec.sections

end Stray

end SyntaxServer
