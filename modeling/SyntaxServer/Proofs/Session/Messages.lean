import SyntaxServer.Session.Reply
import SyntaxServer.Proofs.Json.RoundTrip
import SyntaxServer.Proofs.Session.Calls
import SyntaxServer.Proofs.Session.Params
import SyntaxServer.Proofs.Session.Step
import SyntaxServer.Proofs.Store.Run
import SyntaxServer.Proofs.Syntax.Folds

/-! # Messages that can be read back

All that a session sends is JSON that a reader gives back as it was: places are sent as 32-bit words, versions
and ids are numbers that a client has sent, and nothing is nested deep. For the versions this is a property of
the store that every step keeps.
-/
namespace SyntaxServer

open Json

section Values

variable {depth : Nat}

theorem plain_objectOf {members : List (String × Option Json)}
    (h : ∀ m ∈ members, ∀ v ∈ m.2, Plain depth v) : Plain (depth + 1) (objectOf members) := by
  refine .object fun m hm => ?_
  obtain ⟨⟨name,value⟩,hmem,hvalue⟩ := List.mem_filterMap.1 hm
  obtain ⟨v,hv,rfl⟩ := Option.map_eq_some_iff.1 hvalue
  exact h _ hmem v hv

theorem low32_lt (n : Nat) : low32 n < 2 ^ 32 := Nat.mod_lt n (by decide)

@[simp] theorem plain_position (table : LineTable) (t : Text) (p : Point) :
    Plain (depth + 1) (table.position t p).toJson := by
  have hfits : (table.position t p).line < 2 ^ 32 ∧ (table.position t p).character < 2 ^ 32 := by
    unfold LineTable.position
    split
    · exact ⟨low32_lt _,low32_lt _⟩
    · exact ⟨low32_lt _,low32_lt _⟩
  simp [Position.toJson]
  omega

@[simp] theorem plain_nodeSpan (d : Document) (n : Node) : Plain (depth + 2) (d.nodeSpan n).toJson := by
  simp [Span.toJson, Document.nodeSpan, Document.spanBetween, LineTable.span]

theorem plain_diagnostics (d : Document) : Plain (depth + 4) (.array (d.diagnostics.map Diagnostic.toJson)) := by
  simp only [plain_array_iff, List.mem_map, Document.diagnostics]
  rintro v ⟨diagnostic,⟨n,_,rfl⟩,rfl⟩
  refine plain_objectOf ?_
  simp [Severity.error]

theorem plain_log {level : LogLevel} (h : 1 ≤ level.code ∧ level.code ≤ 4) (text : String) :
    Plain maxDepth (Notice.log level text).toJson := by
  have hplain : Plain (125 + 2) (Notice.log level text).toJson := by
    simp [Notice.toJson, Notice.params]
    omega
  exact hplain

theorem plain_foldRange (n : Node) : Plain (depth + 1) n.foldRange.toJson := by
  have hstart := low32_lt n.start.row
  have hend := low32_lt n.lastRow
  simp [FoldRange.toJson, Node.foldRange]
  omega

theorem plain_error (e : Error) : Plain (depth + 2) e.toJson := by
  have hcode : -2 ^ 63 ≤ e.code ∧ e.code < 2 ^ 64 := by
    unfold Error.code
    split <;> decide
  simpa [Error.toJson] using hcode

end Values

theorem asIntIn_eq_some {low high n : Int} {v : Json} (h : asIntIn low high v = some n) :
    v = .int n ∧ low ≤ n ∧ n ≤ high := by
  unfold asIntIn at h
  split at h
  · split at h
    · next hn =>
      cases h
      exact ⟨rfl,hn⟩
    · cases h
  · cases h

/-- A version as a client can send it. -/
def VersionFits (version : Int) : Prop := -2 ^ 31 ≤ version ∧ version < 2 ^ 31

theorem versionFits_of_required {r : Record} {name : String} {n : Int} (h : r.required name asInt32 = some n) :
    VersionFits n := by
  obtain ⟨v,_,hv⟩ := Option.bind_eq_some_iff.1 h
  obtain ⟨_,hl,hu⟩ := asIntIn_eq_some hv
  exact ⟨hl,by omega⟩

theorem versionFits_openParams [Codec] {method : String} {params : Json} {p : OpenParams}
    (h : decodeParams method OpenParams.ofJson params = .ok p) : VersionFits p.version := by
  obtain ⟨_,_,_,_,_,_,hversion,_⟩ := OpenParams.exists_parts (decodeParams_eq_ok_iff.1 h)
  exact versionFits_of_required hversion

theorem versionFits_changeParams [Codec] {method : String} {params : Json} {p : ChangeParams}
    (h : decodeParams method ChangeParams.ofJson params = .ok p) : VersionFits p.version := by
  obtain ⟨_,_,_,_,_,hversion,_⟩ := ChangeParams.exists_parts (decodeParams_eq_ok_iff.1 h)
  exact versionFits_of_required hversion

theorem plain_diagnosticsNotice {depth : Nat} {items : List Diagnostic} {version : Option Int} (uri : Uri)
    (hitems : Plain (depth + 4) (.array (items.map Diagnostic.toJson)))
    (hversion : ∀ v ∈ version, VersionFits v) :
    Plain (depth + 6) (Notice.diagnostics uri items version).toJson := by
  have hparams : Plain (depth + 5) (Notice.diagnostics uri items version).params := by
    refine plain_objectOf ?_
    simp only [List.mem_cons, List.not_mem_nil, or_false, forall_eq_or_imp, forall_eq, Option.mem_def,
      Option.some.injEq, forall_eq', Option.map_eq_some_iff]
    refine ⟨.string _,hitems,?_⟩
    rintro v ⟨n,hn,rfl⟩
    obtain ⟨hl,hu⟩ := hversion n hn
    exact .int (by omega) (by omega)
  simpa [Notice.toJson] using hparams

namespace Session

variable {engine : Engine} {s s' : Session} {params : Json} {method : String} {notices : List Notice}

/-- The versions of all open documents are such as a client can send. -/
def VersionsFit (s : Session) : Prop := s.store.Each fun d => VersionFits d.version

theorem plain_publish (hs : s.VersionsFit) (uri : Uri) : ∀ n ∈ s.publish uri, Plain maxDepth n.toJson := by
  intro n hn
  unfold publish at hn
  split at hn
  · split at hn
    · next d hd =>
      cases List.mem_singleton.1 hn
      refine plain_diagnosticsNotice uri (plain_diagnostics d) ?_
      rintro v ⟨⟩
      exact hs uri d hd
    · exact absurd hn List.not_mem_nil
  · exact absurd hn List.not_mem_nil

theorem plain_initialized {depth : Nat} : Plain (depth + 3) Answer.initialized.toJson := by
  simp [Answer.toJson, capabilities, serverInfo]

theorem plain_hover {depth : Nat} {p : HoverParams} {found : Option Hover} (h : s.hover p = .ok found) :
    Plain (depth + 3) (Answer.hover found).toJson := by
  obtain ⟨d,_,h⟩ := bind_eq_ok h
  cases h
  cases hfound : (do
      let point ← d.pointAt? p.position
      let found ← d.innermost? point
      return (⟨Hover.text found, d.nodeSpan found.node⟩ : Hover)) with
  | none => exact .null
  | some hover =>
    obtain ⟨point,_,hfound⟩ := Option.bind_eq_some_iff.1 hfound
    obtain ⟨located,_,hfound⟩ := Option.bind_eq_some_iff.1 hfound
    cases hfound
    simp [Answer.toJson, Hover.toJson]

theorem plain_folds {depth : Nat} {p : FoldParams} {ranges : List FoldRange} (h : s.folds p = .ok ranges) :
    Plain (depth + 2) (Answer.folds ranges).toJson := by
  obtain ⟨d,_,h⟩ := bind_eq_ok h
  cases h
  simp only [Answer.toJson, plain_array_iff, List.mem_map]
  rintro v ⟨f,hf,rfl⟩
  obtain ⟨n,_,rfl,_⟩ := Tree.exists_of_mem_folds hf
  exact plain_foldRange n

theorem plain_outcome {id : Id} {outcome : Except Error Answer} (hid : Plain 126 id.toJson)
    (hanswer : ∀ a, outcome = .ok a → Plain 126 a.toJson) :
    Plain maxDepth (Reply.outcome id outcome).toJson := by
  refine .object ?_
  cases outcome with
  | ok a => simpa using ⟨hanswer a rfl, hid⟩
  | error e => simpa using ⟨plain_error e, hid⟩

variable [Codec]

theorem Handled.versionsFit (h : Handled engine s params method s' notices) (hs : s.VersionsFit) :
    s'.VersionsFit := by
  cases h with
  | unrecognized hp hl => exact hs
  | @opened p language store hp hl h =>
    have hperform : s.store.perform? engine (.openDocument p.uri language p.text p.version) = .ok store := h
    cases Store.outcome_of_perform? hperform with
    | opened _ => exact hs.insert (versionFits_openParams hp)
    | revised hop => cases hop
  | @changed p store hp h =>
    have hperform : s.store.perform? engine (.update p.uri p.changes p.version) = .ok store := h
    cases Store.outcome_of_perform? hperform with
    | revised hop =>
      cases hop
      exact hs.insert (versionFits_changeParams hp)
  | notOpen hp h => exact hs
  | closed hp h => exact hs.erase _
  | ignored ho hc hx => exact hs

theorem Handled.plain_notices (h : Handled engine s params method s' notices) (hs : s.VersionsFit) :
    ∀ n ∈ notices, Plain maxDepth n.toJson := by
  have hs' := h.versionsFit hs
  have hlog (text : String) : Plain maxDepth (Notice.log .log text).toJson := plain_log (by decide) text
  cases h with
  | unrecognized hp hl => simpa using hlog _
  | opened hp hl h => simpa using ⟨hlog _, plain_publish hs' _⟩
  | changed hp h => exact plain_publish hs' _
  | notOpen hp h => simp
  | @closed p d hp h =>
    have hcleared : Plain maxDepth (Notice.diagnostics p.uri [] none).toJson :=
      plain_diagnosticsNotice p.uri (by simp) (by simp)
    intro n hn
    rcases List.mem_append.1 hn with hn | hn
    · split at hn
      · cases List.mem_singleton.1 hn
        exact hcleared
      · exact absurd hn List.not_mem_nil
    · cases List.mem_singleton.1 hn
      exact hlog _
  | ignored ho hc hx => simp

theorem Transition.versionsFit {m : Message} {r : Reaction} (h : Transition engine s m s' r)
    (hs : s.VersionsFit) : s'.VersionsFit := by
  cases h with
  | entered h =>
    obtain ⟨_,_,rfl⟩ := enter_eq_ok h
    exact hs
  | handled _ _ h => exact (handled_of_documentNotification h).versionsFit hs
  | _ => exact hs

theorem Transition.plain_notices {m : Message} {r : Reaction} (h : Transition engine s m s' r)
    (hs : s.VersionsFit) : ∀ n ∈ r.notices, Plain maxDepth n.toJson := by
  cases h with
  | entered h => simpa using plain_log (by decide) _
  | handled _ _ h => exact (handled_of_documentNotification h).plain_notices hs
  | failed _ _ h => simpa using plain_log (by decide) _
  | _ => simp

theorem plain_query {depth : Nat} {a : Answer} (h : s.query method params = .ok a) :
    Plain (depth + 3) a.toJson := by
  obtain ⟨_,_,h⟩ := bind_eq_ok h
  split at h
  · obtain ⟨p,_,h⟩ := bind_eq_ok h
    obtain ⟨found,hfound,h⟩ := bind_eq_ok h
    cases h
    exact plain_hover hfound
  · obtain ⟨p,_,h⟩ := bind_eq_ok h
    obtain ⟨ranges,hranges,h⟩ := bind_eq_ok h
    cases h
    exact plain_folds hranges
  · cases h

theorem Transition.plain_reply {m : Message} {r : Reaction} (h : Transition engine s m s' r)
    (hid : ∀ {id method params}, m = .request id method params → Plain 126 id.toJson) :
    ∀ reply ∈ r.reply, Plain maxDepth reply.toJson := by
  rintro reply hreply
  cases h with
  | entered h =>
    cases hreply
    exact plain_outcome (hid rfl) (by rintro a ⟨⟩; exact plain_initialized)
  | notEntered h =>
    cases hreply
    exact plain_outcome (hid rfl) (by simp)
  | shutDown h =>
    cases hreply
    exact plain_outcome (hid rfl) (by rintro a ⟨⟩; exact .null)
  | notShutDown h =>
    cases hreply
    exact plain_outcome (hid rfl) (by simp)
  | queried hi hs =>
    cases hreply
    exact plain_outcome (hid rfl) fun a ha => plain_query ha
  | _ => cases hreply

end Session

theorem Id.plain_of_ofJson? {depth : Nat} {v : Json} {id : Id} (h : Id.ofJson? v = some id) :
    Plain depth id.toJson := by
  unfold Id.ofJson? at h
  split at h
  · cases h
    exact .string _
  · cases h
    exact .null
  · obtain ⟨n,hn,rfl⟩ := Option.map_eq_some_iff.1 h
    obtain ⟨_,hl,hu⟩ := asIntIn_eq_some hn
    exact .int hl (by omega)

theorem Message.plain_id {depth : Nat} {body : Bytes} {id : Id} {method : String} {params : Json}
    (h : Message.parse? body = some (.request id method params)) : Plain depth id.toJson := by
  obtain ⟨v,_,h⟩ := Option.bind_eq_some_iff.1 h
  obtain ⟨_,_,_,_,h⟩ := exists_parts_of_call? (call?_of_ofJson? h (by simp))
  obtain ⟨_,_,_,⟨_,h⟩ | ⟨w,i,_,hi,h⟩⟩ := callOfParts?_eq_some_iff.1 h
  · cases h
  · cases h
    exact Id.plain_of_ofJson? hi

end SyntaxServer
