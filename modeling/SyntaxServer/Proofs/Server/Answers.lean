import SyntaxServer.Proofs.Server.Turns
import SyntaxServer.Proofs.Session.Messages
import SyntaxServer.Proofs.Store.Sample

/-! # What a client is answered

What goes out on a connection is what each body is answered with, in order; only the line that ends the walk
through the workspace comes in between, at any place after the session was initialized. It goes out in frames
that are read back as it.
-/
namespace SyntaxServer

/-- The messages that a client gets for some turns: the answers, and perhaps the line of the walk, which
comes after the answers to all before the body that initialized the session. -/
def Heard [Codec] (engine : Engine) (disk : Disk) (ts : List Turn) (messages : List Json) : Prop :=
  messages = ts.flatMap (Turn.answers engine) ∨
    ∃ before t after w line early late, ts = before ++ t :: after ∧ t.Enters w ∧ w.EndsWith disk line ∧
      (t :: after).flatMap (Turn.answers engine) = early ++ late ∧
      messages = before.flatMap (Turn.answers engine) ++ (early ++ line.toJson :: late)

namespace Delivery

variable {disk : Disk} {w : Workspace} {sent messages : List Outgoing} {events : List Event}

end Delivery

theorem plain_unrelatedError {depth : Nat} {code : Int} (h : -2 ^ 63 ≤ code ∧ code < 2 ^ 64)
    (message : String) : Json.Plain (depth + 2) (unrelatedError code message) := by
  simpa [unrelatedError] using h

theorem Workspace.EndsWith.plain {disk : Disk} {w : Workspace} {line : Notice} (h : w.EndsWith disk line) :
    Json.Plain Json.maxDepth line.toJson := by
  obtain ⟨level,hlevel,text,rfl⟩ := h.exists_log
  have hcode : ∀ level ∈ [LogLevel.info, .warning], 1 ≤ level.code ∧ level.code ≤ 4 := by decide
  exact plain_log (hcode level hlevel) text

section Transcript

variable [Codec] (engine : Engine) (disk : Disk)

variable {engine disk}

theorem Turn.plain_answers {t : Turn} (ht : t.session.VersionsFit) :
    ∀ v ∈ t.answers engine, Json.Plain Json.maxDepth v := by
  intro v hv
  rw [← map_toJson_outgoing] at hv
  obtain ⟨o,ho,rfl⟩ := List.mem_map.1 hv
  unfold reaction at ho
  split at ho
  · cases List.mem_singleton.1 ho
    exact plain_unrelatedError (by decide) "Invalid request"
  split at ho
  · cases List.mem_singleton.1 ho
    exact plain_unrelatedError (by decide) "Parse error"
  · next m hm =>
    have hstep := Session.transition_step engine t.session m
    rcases List.mem_append.1 ho with ho | ho
    · obtain ⟨n,hn,rfl⟩ := List.mem_map.1 ho
      exact hstep.plain_notices ht n hn
    · obtain ⟨reply,hreply,rfl⟩ := List.mem_map.1 ho
      refine hstep.plain_reply ?_ reply (Option.mem_toList.1 hreply)
      rintro id method params rfl
      exact Message.plain_id hm

theorem Heard.plain {ts : List Turn} {messages : List Json} (h : Heard engine disk ts messages)
    (hts : ∀ t ∈ ts, t.session.VersionsFit) : ∀ v ∈ messages, Json.Plain Json.maxDepth v := by
  have hanswers {ts : List Turn} (hts : ∀ t ∈ ts, t.session.VersionsFit) :
      ∀ v ∈ ts.flatMap (Turn.answers engine), Json.Plain Json.maxDepth v := by
    intro v hv
    obtain ⟨t,ht,hv⟩ := List.mem_flatMap.1 hv
    exact Turn.plain_answers (hts t ht) v hv
  rcases h with rfl | ⟨before,t,after,w,line,early,late,rfl,_,hline,hsplit,rfl⟩
  · exact hanswers hts
  · have hbefore := hanswers fun t' ht' => hts t' (List.mem_append_left _ ht')
    have hlater := hanswers fun t' ht' => hts t' (List.mem_append_right before ht')
    rw [hsplit] at hlater
    intro v hv
    simp only [List.mem_append, List.mem_cons] at hv hlater
    rcases hv with hv | hv | rfl | hv
    · exact hbefore v hv
    · exact hlater v (.inl hv)
    · exact hline.plain
    · exact hlater v (.inr hv)

end Transcript

theorem Message.parse?_renderBytes {v : Json} (h : Json.Plain Json.maxDepth v) :
    Message.parse? v.renderBytes = Message.ofJson? v := by
  rw [parse?, h.parseBytes?_renderBytes]
  rfl

namespace Conversation

attribute [local instance] Codec.sections

def workspaceParams : Json :=
  .object [("rootUri", .string "untitled:w"), ("capabilities", .object [])]

def greeting : Json :=
  .object [("jsonrpc", .string "2.0"), ("id", .int 1), ("method", .string "initialize"),
    ("params", workspaceParams)]

def shutdown : Json :=
  .object [("jsonrpc", .string "2.0"), ("id", .string "last"), ("method", .string "shutdown")]

def exit : Json := .object [("jsonrpc", .string "2.0"), ("method", .string "exit")]

/-- A client sends a stray letter, initializes the session, shuts it down and leaves it, and asks once more
after that. -/
def bodies : List Bytes :=
  [[120], greeting.renderBytes, shutdown.renderBytes, exit.renderBytes, shutdown.renderBytes]

def workspace : Workspace := ⟨Uri.untitled "w".toList, {}⟩

theorem parse?_greeting :
    Message.parse? greeting.renderBytes = some (.request (.number 1) "initialize" workspaceParams) := by
  rw [Message.parse?_renderBytes (by simp [Json.maxDepth, greeting, workspaceParams])]
  rfl

theorem parse?_shutdown :
    Message.parse? shutdown.renderBytes = some (.request (.string "last") "shutdown" .null) := by
  rw [Message.parse?_renderBytes (by simp [Json.maxDepth, shutdown])]
  rfl

theorem parse?_exit : Message.parse? exit.renderBytes = some (.notification "exit" .null) := by
  rw [Message.parse?_renderBytes (by simp [Json.maxDepth, exit])]
  rfl

theorem enter_workspaceParams :
    Session.enter {} workspaceParams =
      .ok ({ lifecycle := .initialized, workspace := some workspace }, workspace) := by
  have hworkspace : (Session.enter {} workspaceParams).toOption.map (·.2) = some workspace := by
    decide +kernel
  obtain ⟨⟨s',w⟩,hs',hw⟩ := Option.map_eq_some_iff.1 hworkspace
  have henter := toOption_eq_some_iff.1 hs'
  cases hw
  obtain ⟨_,_,rfl⟩ := Session.enter_eq_ok henter
  exact henter

end Conversation

section Conversation

attribute [local instance] Codec.sections

end Conversation

end SyntaxServer
