import SyntaxServer.Proofs.Session.Tracking
import SyntaxServer.Proofs.Text.Utf8

/-! # Which error a request is answered with

A request fails for the first reason that applies: the lifecycle of the session, then the method, then the params, and
then the documents that are open. The reasons are listed with the names of their errors; a request for which none is
listed succeeds.
-/
namespace SyntaxServer

variable {α β : Type} {kind : String}

/-- A result is an error with the given name. -/
def FailsAs (x : Except Error α) (kind : String) : Prop := ∃ e, x = .error e ∧ kind = e.kind

namespace InitializeParams

/-- Neither a folder nor a URI is given for the root. -/
def LacksUri (p : InitializeParams) : Prop := p.folders = [] ∧ p.rootUri = none

/-- Nothing is given for the root, or an empty path. -/
def IsRootless (p : InitializeParams) : Prop := p.LacksUri ∧ (p.rootPath = none ∨ p.rootPath = some "")

/-- All that is given for the root is a path that is not absolute. -/
def IsRelative (p : InitializeParams) : Prop :=
  p.LacksUri ∧ ∃ path, p.rootPath = some path ∧ path ≠ "" ∧ path.toList.head? ≠ some '/'

/-- Options are given that are no settings. -/
def HasMalformedOptions (p : InitializeParams) : Prop :=
  ∃ v, p.options = some v ∧ v ≠ .null ∧ Settings.ofJson v = none

end InitializeParams

namespace Session

/-- The methods that ask for what is known of a document. -/
def questions : List String := ["textDocument/hover", "textDocument/foldingRange"]

/-- The methods that can be requested. -/
def methods : List String := "initialize" :: "shutdown" :: questions

/-- The reasons for which a request fails, with the names of their errors. -/
inductive Fails [Codec] (s : Session) (method : String) (params : Json) : String → Prop where
  | entered (hm : method = "initialize") (hl : s.lifecycle ≠ .uninitialized) : Fails s method params "InvalidRequest"
  | undecodedEntry (hm : method = "initialize") (hl : s.lifecycle = .uninitialized)
      (hp : InitializeParams.ofJson params = none) : Fails s method params "InvalidParams"
  | rootless {p} (hm : method = "initialize") (hl : s.lifecycle = .uninitialized)
      (hp : InitializeParams.ofJson params = some p) (hroot : p.IsRootless) :
    Fails s method params "MissingRootPath"
  | unusable {p} (hm : method = "initialize") (hl : s.lifecycle = .uninitialized)
      (hp : InitializeParams.ofJson params = some p) (hroot : ¬ p.IsRootless)
      (h : p.IsRelative ∨ p.HasMalformedOptions) : Fails s method params "InvalidParams"
  | early (hm : method ≠ "initialize") (hl : s.lifecycle = .uninitialized) :
    Fails s method params "ServerNotInitialized"
  | late (hm : method ≠ "initialize") (hl : s.lifecycle = .shuttingDown ∨ s.lifecycle = .exited) :
    Fails s method params "InvalidRequest"
  | unknownMethod (hl : s.lifecycle = .initialized) (hm : method ∉ methods) : Fails s method params "MethodNotFound"
  | undecodedQuestion (hl : s.lifecycle = .initialized) (hm : method ∈ questions)
      (hp : ∀ uri, ¬ Consults uri params method) : Fails s method params "InvalidParams"
  | unknownDocument {uri} (hl : s.lifecycle = .initialized) (hp : Consults uri params method)
      (hd : s.store.find? uri = none) : Fails s method params "UnknownDocument"

end Session

section Failures

theorem failsAs_ok (a : α) : ¬ FailsAs (.ok a) kind := by
  rintro ⟨_,h,_⟩
  cases h

theorem failsAs_error_iff {e : Error} : FailsAs (.error e : Except Error α) kind ↔ kind = e.kind := by
  simp [FailsAs]

theorem failsAs_bind_iff {x : Except Error α} {f : α → Except Error β} :
    FailsAs (x >>= f) kind ↔ FailsAs x kind ∨ ∃ a, x = .ok a ∧ FailsAs (f a) kind := by
  cases x with
  | ok a => simp [ok_bind, failsAs_ok]
  | error e => simp [error_bind, failsAs_error_iff]

variable {method : String} {params : Json} {l : Lifecycle}

theorem failsAs_decodeParams_iff [Codec] {decode : Json.Decoder α} :
    FailsAs (decodeParams method decode params) kind ↔ decode params = none ∧ kind = "InvalidParams" := by
  simp only [FailsAs, decodeParams_eq_error_iff]
  constructor
  · rintro ⟨_,⟨hp,rfl⟩,rfl⟩
    exact ⟨hp,rfl⟩
  · rintro ⟨hp,rfl⟩
    exact ⟨_,⟨hp,rfl⟩,rfl⟩

theorem failsAs_lifecycle_enter_iff : FailsAs l.enter kind ↔ l ≠ .uninitialized ∧ kind = "InvalidRequest" := by
  cases l <;> simp [Lifecycle.enter, failsAs_ok, failsAs_error_iff, Error.kind]

theorem failsAs_lifecycle_shutdown_iff : FailsAs l.shutdown kind ↔
    l = .uninitialized ∧ kind = "ServerNotInitialized" ∨
      (l = .shuttingDown ∨ l = .exited) ∧ kind = "InvalidRequest" := by
  cases l <;> simp [Lifecycle.shutdown, failsAs_ok, failsAs_error_iff, Error.kind]

theorem failsAs_gate_iff : FailsAs (l.gate method) kind ↔
    l = .uninitialized ∧ kind = "ServerNotInitialized" ∨
      (l = .shuttingDown ∨ l = .exited) ∧ kind = "InvalidRequest" := by
  cases l <;> simp [Lifecycle.gate, failsAs_ok, failsAs_error_iff, Error.kind]

theorem isAbsolute_encode_iff (t : Text) : Path.isAbsolute (Utf8.encode t) ↔ t.head? = some '/' := by
  cases t with
  | nil => decide
  | cons c t =>
    rw [Path.isAbsolute, Utf8.encode, List.flatMap_cons, List.head?_cons, Option.some_inj, beq_iff_eq]
    constructor
    · intro h
      obtain ⟨b,bs,hc⟩ := List.exists_cons_of_ne_nil (String.utf8EncodeChar_ne_nil (c := c))
      rw [hc] at h
      cases h
      have hslash : c.val.toNat = Path.slash.toNat :=
        Utf8.toNat_eq_of_mem_utf8EncodeChar (by decide) (hc ▸ List.mem_cons_self)
      exact Char.toNat_inj.1 hslash
    · rintro rfl
      rfl

theorem ofDirectory?_encodeString_eq_none_iff (path : String) :
    Uri.ofDirectory? (Utf8.encodeString path) = none ↔ path.toList.head? ≠ some '/' := by
  rw [ne_eq, ← isAbsolute_encode_iff, Uri.ofDirectory?, Utf8.encodeString]
  cases Path.isAbsolute (Utf8.encode path.toList) <;> simp

theorem failsAs_rootOf_iff {p : InitializeParams} : FailsAs (Workspace.rootOf p) kind ↔
    p.IsRootless ∧ kind = "MissingRootPath" ∨ p.IsRelative ∧ kind = "InvalidParams" := by
  have hlacks : p.folders.head?.or p.rootUri = none ↔ p.LacksUri := by
    simp [InitializeParams.LacksUri]
  unfold Workspace.rootOf InitializeParams.IsRootless InitializeParams.IsRelative
  rw [← hlacks]
  cases p.folders.head?.or p.rootUri with
  | some uri => simp [failsAs_ok]
  | none =>
    cases p.rootPath with
    | none => simp [failsAs_error_iff, Error.kind]
    | some path =>
      have hrelative := ofDirectory?_encodeString_eq_none_iff path
      by_cases hempty : path = ""
      · simp [hempty, failsAs_error_iff, Error.kind]
      · cases huri : Uri.ofDirectory? (Utf8.encodeString path) with
        | none => simp [hempty, huri, hrelative.1 huri, failsAs_error_iff, Error.kind]
        | some uri =>
          rw [huri] at hrelative
          simp_all [failsAs_ok]

theorem failsAs_ofOptions_iff [Codec] {p : InitializeParams} :
    FailsAs (Settings.ofOptions p.options) kind ↔ p.HasMalformedOptions ∧ kind = "InvalidParams" := by
  unfold InitializeParams.HasMalformedOptions
  cases p.options with
  | none => simp [Settings.ofOptions, failsAs_ok]
  | some v =>
    by_cases hnull : v = .null
    · simp [hnull, Settings.ofOptions, failsAs_ok]
    · rw [Settings.ofOptions]
      · cases hv : Settings.ofJson v with
        | some settings => simp [hv, failsAs_ok]
        | none => simp [hv, hnull, failsAs_error_iff, Error.kind]
      · exact hnull

theorem InitializeParams.IsRelative.not_isRootless {p : InitializeParams} (h : p.IsRelative) :
    ¬ p.IsRootless := by
  obtain ⟨_,path,hpath,hne,_⟩ := h
  rintro ⟨_,hnone | hempty⟩
  · simp [hpath] at hnone
  · simp [hpath, hne] at hempty

theorem failsAs_ofParams_iff [Codec] {p : InitializeParams} : FailsAs (Workspace.ofParams p) kind ↔
    p.IsRootless ∧ kind = "MissingRootPath" ∨
      ¬ p.IsRootless ∧ (p.IsRelative ∨ p.HasMalformedOptions) ∧ kind = "InvalidParams" := by
  have hsettings (root : Uri) : FailsAs (Settings.ofOptions p.options >>= fun settings =>
      (.ok ⟨root, settings⟩ : Except Error Workspace)) kind ↔ p.HasMalformedOptions ∧ kind = "InvalidParams" := by
    simp [failsAs_bind_iff, failsAs_ofOptions_iff, failsAs_ok]
  change FailsAs (Workspace.rootOf p >>= _) kind ↔ _
  cases hroot : Workspace.rootOf p with
  | ok root =>
    have hnone (kind : String) : ¬ FailsAs (Workspace.rootOf p) kind := hroot ▸ failsAs_ok root
    have hrootless : ¬ p.IsRootless := fun h => hnone _ (failsAs_rootOf_iff.2 (.inl ⟨h,rfl⟩))
    have hrelative : ¬ p.IsRelative := fun h => hnone _ (failsAs_rootOf_iff.2 (.inr ⟨h,rfl⟩))
    rw [ok_bind]
    refine (hsettings root).trans ?_
    simp [hrootless, hrelative]
  | error e =>
    rw [error_bind, failsAs_error_iff]
    have hfails (kind : String) : kind = e.kind ↔
        p.IsRootless ∧ kind = "MissingRootPath" ∨ p.IsRelative ∧ kind = "InvalidParams" := by
      rw [← failsAs_rootOf_iff, hroot, failsAs_error_iff]
    rcases (hfails _).1 rfl with ⟨hrootless,_⟩ | ⟨hrelative,_⟩
    · have hrelative : ¬ p.IsRelative := fun h => h.not_isRootless hrootless
      rw [hfails]
      simp [hrootless, hrelative]
    · rw [hfails]
      simp [hrelative, hrelative.not_isRootless]

end Failures

namespace Session

variable {s : Session} {method : String} {params : Json}

theorem Consults.mem_questions {uri : Uri} (h : Consults uri params method) : method ∈ questions := by
  cases h <;> decide

theorem consults_hover_iff {uri : Uri} : Consults uri params "textDocument/hover" ↔
    ∃ p, HoverParams.ofJson params = some p ∧ p.uri = uri := by
  constructor
  · intro h
    generalize hm : "textDocument/hover" = method at h
    cases h with
    | hover hp hu => exact ⟨_,hp,hu⟩
    | folds _ _ => exact absurd hm (by decide)
  · rintro ⟨p,hp,hu⟩
    exact .hover hp hu

theorem consults_foldingRange_iff {uri : Uri} : Consults uri params "textDocument/foldingRange" ↔
    ∃ p, FoldParams.ofJson params = some p ∧ p.uri = uri := by
  constructor
  · intro h
    generalize hm : "textDocument/foldingRange" = method at h
    cases h with
    | hover _ _ => exact absurd hm (by decide)
    | folds hp hu => exact ⟨_,hp,hu⟩
  · rintro ⟨p,hp,hu⟩
    exact .folds hp hu

variable [Codec]

/-- Recording the workspace is the one step of initializing that does not fail. -/
theorem failsAs_enter_iff (hs : s.KnowsWorkspace) :
    FailsAs (s.enter params) kind ↔ s.Fails "initialize" params kind := by
  have henter (hl : s.lifecycle = .uninitialized) : s.lifecycle.enter = .ok .initialized := by
    rw [hl]
    rfl
  constructor
  · intro h
    by_cases hl : s.lifecycle = .uninitialized
    · rw [enter, henter hl, ok_bind] at h
      rcases failsAs_bind_iff.1 h with h | ⟨p,hp,h⟩
      · obtain ⟨hp,rfl⟩ := failsAs_decodeParams_iff.1 h
        exact .undecodedEntry rfl hl hp
      rw [decodeParams_eq_ok_iff] at hp
      rcases failsAs_bind_iff.1 h with h | ⟨w,_,h⟩
      · rcases failsAs_ofParams_iff.1 h with ⟨hroot,rfl⟩ | ⟨hroot,hunusable,rfl⟩
        · exact .rootless rfl hl hp hroot
        · exact .unusable rfl hl hp hroot hunusable
      · rw [hs.recordWorkspace_eq_ok (henter hl) w, ok_bind] at h
        exact absurd h (failsAs_ok _)
    · rcases failsAs_bind_iff.1 h with h | ⟨_,hnext,_⟩
      · obtain ⟨_,rfl⟩ := failsAs_lifecycle_enter_iff.1 h
        exact .entered rfl hl
      · have hfails : FailsAs s.lifecycle.enter "InvalidRequest" := failsAs_lifecycle_enter_iff.2 ⟨hl,rfl⟩
        rw [hnext] at hfails
        exact absurd hfails (failsAs_ok _)
  · intro h
    unfold enter
    cases h with
    | entered _ hl => exact failsAs_bind_iff.2 (.inl (failsAs_lifecycle_enter_iff.2 ⟨hl,rfl⟩))
    | undecodedEntry _ hl hp =>
      rw [henter hl, ok_bind]
      exact failsAs_bind_iff.2 (.inl (failsAs_decodeParams_iff.2 ⟨hp,rfl⟩))
    | rootless _ hl hp hroot =>
      rw [henter hl, ok_bind, decodeParams_eq_ok_iff.2 hp, ok_bind]
      exact failsAs_bind_iff.2 (.inl (failsAs_ofParams_iff.2 (.inl ⟨hroot,rfl⟩)))
    | unusable _ hl hp hroot hunusable =>
      rw [henter hl, ok_bind, decodeParams_eq_ok_iff.2 hp, ok_bind]
      exact failsAs_bind_iff.2 (.inl (failsAs_ofParams_iff.2 (.inr ⟨hroot,hunusable,rfl⟩)))
    | early hi => exact absurd rfl hi
    | late hi => exact absurd rfl hi
    | unknownMethod _ hm => exact absurd List.mem_cons_self hm
    | undecodedQuestion _ hm => exact absurd hm (by decide)
    | unknownDocument _ hp => exact absurd hp.mem_questions (by decide)

theorem fails_initialized_iff (hm : method ≠ "initialize") (hl : s.lifecycle = .initialized) :
    s.Fails method params kind ↔
      method ∉ methods ∧ kind = "MethodNotFound" ∨
        method ∈ questions ∧ (∀ uri, ¬ Consults uri params method) ∧ kind = "InvalidParams" ∨
        ∃ uri, Consults uri params method ∧ s.store.find? uri = none ∧ kind = "UnknownDocument" := by
  constructor
  · intro h
    cases h with
    | unknownMethod _ hm => exact .inl ⟨hm,rfl⟩
    | undecodedQuestion _ hm hp => exact .inr (.inl ⟨hm,hp,rfl⟩)
    | unknownDocument _ hp hd => exact .inr (.inr ⟨_,hp,hd,rfl⟩)
    | entered hi | undecodedEntry hi | rootless hi | unusable hi => exact absurd hi hm
    | early _ hl' => cases hl.symm.trans hl'
    | late _ hl' => rcases hl' with hl' | hl' <;> cases hl.symm.trans hl'
  · rintro (⟨hm,rfl⟩ | ⟨hm,hp,rfl⟩ | ⟨uri,hp,hd,rfl⟩)
    · exact .unknownMethod hl hm
    · exact .undecodedQuestion hl hm hp
    · exact .unknownDocument hl hp hd

theorem fails_gated_iff (hm : method ≠ "initialize") (hl : s.lifecycle ≠ .initialized) :
    s.Fails method params kind ↔ s.lifecycle = .uninitialized ∧ kind = "ServerNotInitialized" ∨
      (s.lifecycle = .shuttingDown ∨ s.lifecycle = .exited) ∧ kind = "InvalidRequest" := by
  constructor
  · intro h
    cases h with
    | early _ hl' => exact .inl ⟨hl',rfl⟩
    | late _ hl' => exact .inr ⟨hl',rfl⟩
    | entered hi | undecodedEntry hi | rootless hi | unusable hi => exact absurd hi hm
    | unknownMethod hl' | undecodedQuestion hl' | unknownDocument hl' => exact absurd hl' hl
  · rintro (⟨hl',rfl⟩ | ⟨hl',rfl⟩)
    · exact .early hm hl'
    · exact .late hm hl'

theorem failsAs_question_iff {decode : Json.Decoder α} {uri : α → Uri} {find : α → Document → β}
    {answer : β → Answer} (hl : s.lifecycle = .initialized) (hm : method ∈ questions)
    (hc : ∀ u, Consults u params method ↔ ∃ p, decode params = some p ∧ uri p = u) :
    FailsAs (do
      let p ← decodeParams method decode params
      let found ← s.store.get (uri p) >>= fun d => .ok (find p d)
      .ok (answer found)) kind ↔ s.Fails method params kind := by
  have hget (u : Uri) : FailsAs (s.store.get u) kind ↔ s.store.find? u = none ∧ kind = "UnknownDocument" := by
    simp [FailsAs, Store.get_eq_error_iff, Error.kind]
  have hi : method ≠ "initialize" := by
    rintro rfl
    exact absurd hm (by decide)
  have hknown : method ∈ methods := List.mem_cons_of_mem _ (List.mem_cons_of_mem _ hm)
  rw [fails_initialized_iff hi hl]
  simp [failsAs_bind_iff, failsAs_decodeParams_iff, decodeParams_eq_ok_iff, Option.eq_none_iff_forall_ne_some, hget,
    failsAs_ok, hc, hm, hknown]

theorem failsAs_query_iff (hi : method ≠ "initialize") (hs : method ≠ "shutdown") :
    FailsAs (s.query method params) kind ↔ s.Fails method params kind := by
  unfold query
  by_cases hl : s.lifecycle = .initialized
  · have hgate : s.lifecycle.gate method = .ok () := by
      rw [hl]
      rfl
    rw [hgate, ok_bind]
    split
    · exact failsAs_question_iff hl (by decide) fun _ => consults_hover_iff
    · exact failsAs_question_iff hl (by decide) fun _ => consults_foldingRange_iff
    · next hhover hfolds =>
      have hquestion : method ∉ questions := by
        simp only [questions, List.mem_cons, List.not_mem_nil, or_false, not_or]
        exact ⟨hhover,hfolds⟩
      have hunknown : method ∉ methods := by simp [methods, hi, hs, hquestion]
      have hconsults (uri : Uri) : ¬ Consults uri params method := fun h => hquestion h.mem_questions
      rw [failsAs_error_iff, fails_initialized_iff hi hl]
      simp [hunknown, hquestion, hconsults, Error.kind]
  · rw [fails_gated_iff hi hl, failsAs_bind_iff, failsAs_gate_iff]
    refine or_iff_left ?_
    rintro ⟨_,hgate,_⟩
    cases h : s.lifecycle <;> rw [h] at hgate hl <;> simp [Lifecycle.gate] at hgate hl

theorem failsAs_shutdown_iff : FailsAs s.lifecycle.shutdown kind ↔ s.Fails "shutdown" params kind := by
  have hi : "shutdown" ≠ "initialize" := by decide
  by_cases hl : s.lifecycle = .initialized
  · have hknown : "shutdown" ∈ methods := by decide
    have hquestion : "shutdown" ∉ questions := by decide
    have hconsults (uri : Uri) : ¬ Consults uri params "shutdown" := fun h => hquestion h.mem_questions
    rw [fails_initialized_iff hi hl, hl]
    simp [Lifecycle.shutdown, failsAs_ok, hknown, hquestion, hconsults]
  · rw [fails_gated_iff hi hl, failsAs_lifecycle_shutdown_iff]

theorem failsAs_request_iff (hs : s.KnowsWorkspace) :
    FailsAs (s.request method params).2.1 kind ↔ s.Fails method params kind := by
  by_cases hi : method = "initialize"
  · subst hi
    rw [← failsAs_enter_iff hs]
    cases henter : s.enter params with
    | ok r => simp [request, henter, failsAs_ok]
    | error e => simp [request, henter, failsAs_error_iff]
  by_cases hshut : method = "shutdown"
  · subst hshut
    rw [← failsAs_shutdown_iff]
    cases hshutdown : s.lifecycle.shutdown with
    | ok r => simp [request, hshutdown, failsAs_ok]
    | error e => simp [request, hshutdown, failsAs_error_iff]
  · have hrequest : (s.request method params).2.1 = s.query method params := by
      simp only [request]
    rw [hrequest, failsAs_query_iff hi hshut]

theorem Fails.kind_not_mem (h : s.Fails method params kind) :
    kind ∉ ["Internal", "ParseFailure", "OutOfOrderEdit", "InvalidEdit"] := by
  cases h <;> decide

/-- An error in a reply has a reason in the request that is answered. -/
theorem Transition.fails {engine : Engine} {s' : Session} {m : Message} {r : Reaction} {id : Id} {e : Error}
    (h : Transition engine s m s' r) (hs : s.KnowsWorkspace) (hr : r.reply = some (.outcome id (.error e))) :
    ∃ method params, m = .request id method params ∧ s.Fails method params e.kind := by
  cases h with
  | notEntered h =>
    cases hr
    exact ⟨_,_,rfl,(failsAs_enter_iff hs).1 ⟨e,h,rfl⟩⟩
  | notShutDown h =>
    cases hr
    exact ⟨_,_,rfl,failsAs_shutdown_iff.1 ⟨e,h,rfl⟩⟩
  | queried hi hshut =>
    injection hr with hr
    injection hr with hid hr
    subst hid
    exact ⟨_,_,rfl,(failsAs_query_iff hi hshut).1 ⟨e,hr,rfl⟩⟩
  | entered _ => cases hr
  | shutDown _ => cases hr
  | _ => cases hr

theorem answer_of_shutdown {answer : Answer} (h : (s.request "shutdown" params).2.1 = .ok answer) :
    answer = .shutdown := by
  cases hshutdown : s.lifecycle.shutdown with
  | ok next =>
    simp only [request, hshutdown] at h
    cases h
    rfl
  | error e =>
    simp only [request, hshutdown] at h
    cases h

/-- After every run a request fails for the first reason that applies, and as the error of that reason; without one it
succeeds, and shutting down answers null. So errors of four kinds are answers to no request of any run. -/
theorem request_fails_iff (engine : Engine) (ms : List Message) :
    (∀ id method params, ∃ outcome,
      ((run engine {} ms).1.step engine (.request id method params)).2.reply = some (.outcome id outcome) ∧
      (∀ kind, FailsAs outcome kind ↔ (run engine {} ms).1.Fails method params kind) ∧
      ((∃ answer, outcome = .ok answer) ↔ ∀ kind, ¬ (run engine {} ms).1.Fails method params kind) ∧
      ∀ answer, method = "shutdown" → outcome = .ok answer → answer.toJson = .null) ∧
    ∀ e ∈ exchanges engine {} ms, ∀ id error, e.2.reply = some (.outcome id (.error error)) →
      error.kind ∉ ["Internal", "ParseFailure", "OutOfOrderEdit", "InvalidEdit"] := by
  have hknown (ms : List Message) := knowsWorkspace_run engine ms
  constructor
  · intro id method params
    refine ⟨((run engine {} ms).1.request method params).2.1,rfl,?_,?_,?_⟩
    · intro kind
      exact failsAs_request_iff (hknown ms)
    · simp only [← failsAs_request_iff (hknown ms)]
      cases ((run engine {} ms).1.request method params).2.1 with
      | ok answer => simp [failsAs_ok]
      | error e => simp [failsAs_error_iff]
    · rintro answer rfl h
      rw [answer_of_shutdown h]
      rfl
  · intro e he id error hr
    obtain ⟨before,after,hsplit⟩ := List.append_of_mem he
    obtain ⟨_,_,_,hfails⟩ := (transition_of_exchanges_eq hsplit).fails (hknown _) hr
    exact hfails.kind_not_mem

end Session

end SyntaxServer
