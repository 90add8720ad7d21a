import SyntaxServer.Proofs.Session.Workspace

/-! # Diagnostics at the client

A client shows for a document what the last notice about it has said. Where diagnostics are sent at all, every
exchange sends what is needed for this to be the diagnostics of the documents in the store, and nothing for those
that are not open.
-/
namespace SyntaxServer

namespace Notice

/-- What a notice says about the diagnostics of a document, with the version they belong to. -/
def about? (uri : Uri) : Notice → Option (List Diagnostic × Option Int)
  | log _ _ => none
  | diagnostics u items version => if u = uri then some (items, version) else none

/-- What the last notice about a document has said. -/
def shown? (uri : Uri) (notices : List Notice) : Option (List Diagnostic × Option Int) :=
  (notices.filterMap (about? uri)).getLast?

variable {uri other : Uri} {sent later : List Notice}

theorem shown?_append : shown? uri (sent ++ later) = (shown? uri later).or (shown? uri sent) := by
  rw [shown?, List.filterMap_append, List.getLast?_append]
  rfl

theorem shown?_diagnostics_self (items : List Diagnostic) (version : Option Int) :
    shown? uri [.diagnostics uri items version] = some (items, version) := by
  simp [shown?, about?]

theorem shown?_diagnostics_of_ne (h : other ≠ uri) (items : List Diagnostic) (version : Option Int) :
    shown? other [.diagnostics uri items version] = none := by
  simp [shown?, about?, h.symm]

theorem shown?_append_of_none (h : shown? uri later = none) : shown? uri (sent ++ later) = shown? uri sent := by
  rw [shown?_append, h, Option.none_or]

end Notice

open Notice

/-- What is shown for each document mirrors the store. -/
structure Store.IsMirrored (store : Store) (sent : List Notice) : Prop where
  shown_open : ∀ uri d, store.find? uri = some d → shown? uri sent = some (d.diagnostics, some d.version)
  shown_closed : ∀ uri, store.find? uri = none → shown? uri sent = none ∨ shown? uri sent = some ([], none)

namespace Store

variable {store store' : Store} {sent later : List Notice} {engine : Engine} {uri : Uri}

theorem IsMirrored.append_log (h : store.IsMirrored sent) (level : LogLevel) (text : String) :
    store.IsMirrored (sent ++ [.log level text]) := by
  constructor
  · intro uri d hd
    rw [shown?_append_of_none rfl]
    exact h.shown_open uri d hd
  · intro uri hnone
    rw [shown?_append_of_none rfl]
    exact h.shown_closed uri hnone

theorem IsMirrored.append_diagnostics (h : store.IsMirrored sent) {items : List Diagnostic} {version : Option Int}
    (hothers : ∀ other, other ≠ uri → store'.find? other = store.find? other)
    (hopen : ∀ d, store'.find? uri = some d → (items, version) = (d.diagnostics, some d.version))
    (hclosed : store'.find? uri = none → (items, version) = ([], none)) :
    store'.IsMirrored (sent ++ [.diagnostics uri items version]) := by
  have hself : shown? uri (sent ++ [.diagnostics uri items version]) = some (items, version) := by
    rw [shown?_append, shown?_diagnostics_self, Option.some_or]
  have hother {other : Uri} (ho : other ≠ uri) :
      shown? other (sent ++ [.diagnostics uri items version]) = shown? other sent :=
    shown?_append_of_none (shown?_diagnostics_of_ne ho items version)
  constructor
  · intro other d hd
    by_cases ho : other = uri
    · subst ho
      rw [hself, hopen d hd]
    · rw [hothers other ho] at hd
      rw [hother ho]
      exact h.shown_open other d hd
  · intro other hnone
    by_cases ho : other = uri
    · subst ho
      rw [hself, hclosed hnone]
      exact .inr rfl
    · rw [hothers other ho] at hnone
      rw [hother ho]
      exact h.shown_closed other hnone

theorem IsMirrored.insert (h : store.IsMirrored sent) (d : Document) :
    (store.insert uri d).IsMirrored (sent ++ [.diagnostics uri d.diagnostics (some d.version)]) := by
  apply h.append_diagnostics
  · intro other ho
    exact find?_insert_of_ne store ho d
  · intro d' hd'
    rw [find?_insert_self, Option.some.injEq] at hd'
    rw [hd']
  · intro hnone
    rw [find?_insert_self] at hnone
    cases hnone

theorem IsMirrored.erase (h : store.IsMirrored sent) (uri : Uri) :
    (store.erase uri).IsMirrored (sent ++ [.diagnostics uri [] none]) := by
  apply h.append_diagnostics
  · intro other ho
    exact find?_erase_of_ne store ho
  · intro d hd
    rw [find?_erase_self] at hd
    cases hd
  · intro _
    rfl

theorem exists_insert_of_openDocument {language : Language} {text : Text} {version : Int}
    (h : store.openDocument uri engine language text version = .ok store') :
    ∃ d, store' = store.insert uri d := by
  obtain ⟨tree,_,h⟩ := bind_eq_ok h
  cases h
  exact ⟨_,rfl⟩

theorem exists_insert_of_update {changes : List Change} {version : Int}
    (h : store.update uri engine changes version = .ok store') : ∃ d, store' = store.insert uri d := by
  have hperform : store.perform? engine (.update uri changes version) = .ok store' := h
  cases outcome_of_perform? hperform with
  | revised hop =>
    cases hop
    exact ⟨_,rfl⟩

end Store

namespace Session

variable {engine : Engine} {s s' : Session} {m : Message} {r : Reaction} {params : Json} {method : String}
  {sent notices : List Notice}

theorem publish_insert (hp : s.publishes = true) (uri : Uri) (d : Document) :
    publish { s with store := s.store.insert uri d } uri =
      [.diagnostics uri d.diagnostics (some d.version)] := by
  have hpublishes : publishes { s with store := s.store.insert uri d } = true := hp
  simp [publish, hpublishes]

theorem publish_of_not_publishes (hp : s.publishes = false) (uri : Uri) : s.publish uri = [] := by
  simp [publish, hp]

variable [Codec]

/-- A document that is opened, changed or closed is shown as it then is, and no other is touched. -/
theorem Handled.isMirrored (h : Handled engine s params method s' notices) (hp : s.publishes = true)
    (hs : s.store.IsMirrored sent) : s'.store.IsMirrored (sent ++ notices) := by
  cases h with
  | unrecognized _ _ => exact hs.append_log _ _
  | @opened p _ _ _ _ h =>
    obtain ⟨d,rfl⟩ := Store.exists_insert_of_openDocument h
    have hlog := hs.append_log .log s!"Document opened: {p.uri}"
    rw [publish_insert hp, List.append_cons]
    exact hlog.insert d
  | changed _ h =>
    obtain ⟨d,rfl⟩ := Store.exists_insert_of_update h
    rw [publish_insert hp]
    exact hs.insert d
  | notOpen _ _ =>
    rw [List.append_nil]
    exact hs
  | @closed p _ _ _ =>
    rw [if_pos hp, ← List.append_assoc]
    exact (hs.erase p.uri).append_log _ _
  | ignored _ _ _ =>
    rw [List.append_nil]
    exact hs

theorem Handled.silent (h : Handled engine s params method s' notices) (hp : s.publishes = false) :
    ∀ n ∈ notices, n.method ≠ "textDocument/publishDiagnostics" := by
  have hpublish (store : Store) (uri : Uri) : publish { s with store } uri = [] :=
    publish_of_not_publishes (s := { s with store }) hp uri
  cases h with
  | unrecognized _ _ => simp [Notice.method]
  | opened _ _ _ => simp [hpublish, Notice.method]
  | changed _ _ => simp [hpublish]
  | notOpen _ _ => simp
  | closed _ _ => simp [hp, Notice.method]
  | ignored _ _ _ => simp

namespace Transition

theorem publishes_of_next (h : Transition engine s m s' r) (hp : s'.publishes = true) :
    s.publishes = true := by
  by_cases hi : Exchange.Initializes (m, r)
  · obtain ⟨_,_,_,_,henter⟩ := h.initializes_iff.1 hi
    rw [publishes, (enter_eq_ok henter).2.1]
    rfl
  · rw [publishes, ← h.workspace_eq_of_not_initializes hi]
    exact hp

theorem isMirrored (h : Transition engine s m s' r) (hp : s'.publishes = true)
    (hs : s.store.IsMirrored sent) : s'.store.IsMirrored (sent ++ r.notices) := by
  have hbefore := h.publishes_of_next hp
  cases h with
  | entered h =>
    obtain ⟨_,_,rfl⟩ := enter_eq_ok h
    exact hs.append_log _ _
  | handled _ _ h => exact (handled_of_documentNotification h).isMirrored hbefore hs
  | failed _ _ _ => exact hs.append_log _ _
  | _ =>
    rw [List.append_nil]
    exact hs

theorem silent (h : Transition engine s m s' r) (hs : s.lifecycle = .uninitialized ∨ s.publishes = false) :
    ∀ n ∈ r.notices, n.method ≠ "textDocument/publishDiagnostics" := by
  cases h with
  | handled _ ha h =>
    rcases hs with hl | hp
    · rw [hl] at ha
      cases ha
    · exact (handled_of_documentNotification h).silent hp
  | entered _ => simp [Notice.method]
  | failed _ _ _ => simp [Notice.method]
  | _ => simp

theorem quiet_before (h : Transition engine s m s' r)
    (hs : s'.lifecycle = .uninitialized ∨ s'.publishes = false) :
    s.lifecycle = .uninitialized ∨ s.publishes = false := by
  by_cases hi : Exchange.Initializes (m, r)
  · obtain ⟨_,_,_,_,henter⟩ := h.initializes_iff.1 hi
    exact .inl (enter_eq_ok henter).1
  · rcases hs with hl | hp
    · by_cases hbefore : s.lifecycle = .uninitialized
      · exact .inl hbefore
      · exact absurd hl (h.lifecycle_ne_uninitialized hbefore)
    · right
      rw [publishes, ← h.workspace_eq_of_not_initializes hi]
      exact hp

end Transition

theorem publishes_of_run (ms : List Message) (hp : (s.run engine ms).1.publishes = true) :
    s.publishes = true := by
  revert hp
  apply run_preserves (motive := fun t => t.publishes = true → s.publishes = true) id
  intro t m t' r ht h hp
  exact ht (h.publishes_of_next hp)

theorem isMirrored_run (ms : List Message) (hp : (run engine {} ms).1.publishes = true) :
    (run engine {} ms).1.store.IsMirrored (Exchange.notices (exchanges engine {} ms)) := by
  revert hp
  apply run_induction (motive := fun es t => t.publishes = true → t.store.IsMirrored (Exchange.notices es))
  · intro _
    constructor
    · intro uri d hd
      cases hd
    · intro uri _
      exact .inl rfl
  · intro es t m t' r ht h hp
    rw [Exchange.notices_append, Exchange.notices_singleton]
    exact h.isMirrored hp (ht (h.publishes_of_next hp))

theorem silent_run (ms : List Message) (hp : (run engine {} ms).1.publishes = false) :
    ∀ n ∈ Exchange.notices (exchanges engine {} ms), n.method ≠ "textDocument/publishDiagnostics" := by
  -- before the session is initialized it would publish, but there is nothing to publish yet
  have hquiet : (run engine {} ms).1.lifecycle = .uninitialized ∨ (run engine {} ms).1.publishes = false →
      ∀ n ∈ Exchange.notices (exchanges engine {} ms), n.method ≠ "textDocument/publishDiagnostics" := by
    apply run_induction (motive := fun es t => t.lifecycle = .uninitialized ∨ t.publishes = false →
      ∀ n ∈ Exchange.notices es, n.method ≠ "textDocument/publishDiagnostics")
    · intro _ n hn
      cases hn
    · intro es t m t' r ht h hs n hn
      have hbefore := h.quiet_before hs
      rw [Exchange.notices_append, Exchange.notices_singleton, List.mem_append] at hn
      rcases hn with hn | hn
      · exact ht hbefore n hn
      · exact h.silent hbefore n hn
  exact hquiet (.inr hp)

/-- After each message of a run in which diagnostics are turned on, what a client has last been told of each
document is what the store holds: the diagnostics and the version of one that is open, and nothing of one that is
not. Where they are turned off it is never told of any, and the line that ends a walk tells it of none. -/
theorem diagnostics_mirror_store (engine : Engine) {ms : List Message} {e : Exchange} {w : Workspace}
    (he : e ∈ exchanges engine {} ms) (hw : e.Records w) :
    (w.settings.publishDiagnostics = true → ∀ seen later, ms = seen ++ later →
      (run engine {} seen).1.store.IsMirrored (Exchange.notices (exchanges engine {} seen))) ∧
    (w.settings.publishDiagnostics = false →
      ∀ n ∈ Exchange.notices (exchanges engine {} ms), n.method ≠ "textDocument/publishDiagnostics") ∧
    ∀ disk line, w.EndsWith disk line → line.method ≠ "textDocument/publishDiagnostics" := by
  have hworkspace := (workspace_run_eq_some_iff engine ms).2 ⟨e,he,hw⟩
  have hpublishes : (run engine {} ms).1.publishes = w.settings.publishDiagnostics := by
    rw [publishes, hworkspace]
    rfl
  refine ⟨?_,?_,?_⟩
  · rintro hon seen later rfl
    rw [hon, run_append] at hpublishes
    exact isMirrored_run seen (publishes_of_run later hpublishes)
  · intro hoff
    exact silent_run ms (hpublishes.trans hoff)
  · intro disk line hline
    obtain ⟨level,_,text,rfl⟩ := hline.exists_log
    simp [Notice.method]

end Session

namespace Typing

def document (more : List (String × Json)) : Json := .object (("uri", .string "untitled:a") :: more)

/-- A client turns diagnostics on or off, opens a faulty document, mends it, sends a change that does not fit and
closes the document twice. -/
def messages (publish : Bool) : List Message :=
  let close := Message.notification "textDocument/didClose" (.object [("textDocument", document [])])
  [.request (.number 1) "initialize" (.object [("capabilities", .object []), ("rootUri", .string "untitled:w"),
      ("initializationOptions", .object [("publishDiagnostics", .bool publish)])]),
    .notification "textDocument/didOpen" (.object [("textDocument", document [("languageId", .string "json"),
      ("version", .int 1), ("text", .string "tru")])]),
    .notification "textDocument/didChange" (.object [("textDocument", document [("version", .int 2)]),
      ("contentChanges", .array [.object [("text", .string " ")]])]),
    .notification "textDocument/didChange" (.object [("textDocument", document [("version", .int 3)]),
      ("contentChanges", .array [.object [("range", Span.toJson ⟨⟨9, 0⟩, ⟨9, 0⟩⟩), ("text", .string "x")]])]),
    close, close]

end Typing

namespace Session

attribute [local instance] Codec.sections

/-- With diagnostics turned on, the client is shown the fault of the document that it has opened and none when it
has closed it; with diagnostics turned off it is told nothing in between either. -/
theorem diagnostics_mirror_store_typing :
    (∃ e ∈ exchanges .tokenless {} (Typing.messages true), e.Records ⟨.untitled ['w'], {}⟩) ∧
    (∃ d, (run .tokenless {} ((Typing.messages true).take 2)).1.store.find? (.untitled ['a']) = some d ∧
      d.diagnostics.length = 1 ∧
      shown? (.untitled ['a']) (Exchange.notices (exchanges .tokenless {} ((Typing.messages true).take 2))) =
        some (d.diagnostics, some 1)) ∧
    (shown? (.untitled ['a']) (Exchange.notices (exchanges .tokenless {} (Typing.messages true))) = none ∨
      shown? (.untitled ['a']) (Exchange.notices (exchanges .tokenless {} (Typing.messages true))) =
        some ([], none)) ∧
    ((⟨.untitled ['w'], {}⟩ : Workspace).walkNotice {}).method ≠ "textDocument/publishDiagnostics" ∧
    (∃ e ∈ exchanges .tokenless {} (Typing.messages false),
      e.Records ⟨.untitled ['w'], { publishDiagnostics := false }⟩) ∧
    ∀ n ∈ Exchange.notices (exchanges .tokenless {} (Typing.messages false)),
      n.method ≠ "textDocument/publishDiagnostics" := by
  have hon : (run .tokenless {} (Typing.messages true)).1.workspace = some ⟨.untitled ['w'], {}⟩ := by
    decide +kernel
  have hoff : (run .tokenless {} (Typing.messages false)).1.workspace =
      some ⟨.untitled ['w'], { publishDiagnostics := false }⟩ := by
    decide +kernel
  have hopened : ((run .tokenless {} ((Typing.messages true).take 2)).1.store.find? (.untitled ['a'])).map
      (fun d => (d.version, d.diagnostics.length)) = some (1, 1) := by
    decide +kernel
  have hclosed : ((run .tokenless {} (Typing.messages true)).1.store.find? (.untitled ['a'])).isNone := by
    decide +kernel
  obtain ⟨e,he,hw⟩ := (workspace_run_eq_some_iff _ _).1 hon
  obtain ⟨e',he',hw'⟩ := (workspace_run_eq_some_iff _ _).1 hoff
  obtain ⟨d,hd,heq⟩ := Option.map_eq_some_iff.1 hopened
  obtain ⟨hversion,hlength⟩ := Prod.mk.inj heq
  have hmirrored := (diagnostics_mirror_store .tokenless he hw).1 rfl
  have hseen := hmirrored ((Typing.messages true).take 2) _ (List.take_append_drop 2 _).symm
  have hall := hmirrored (Typing.messages true) [] (List.append_nil _).symm
  have hshown := hseen.shown_open _ d hd
  rw [hversion] at hshown
  refine ⟨⟨e,he,hw⟩,⟨d,hd,hlength,hshown⟩,?_,?_,⟨e',he',hw'⟩,?_⟩
  · exact hall.shown_closed _ (Option.isNone_iff_eq_none.1 hclosed)
  · exact (diagnostics_mirror_store .tokenless he hw).2.2 {} _ .walked
  · exact (diagnostics_mirror_store .tokenless he' hw').2.1 rfl

end Session

end SyntaxServer
