import Mathlib.Logic.Function.Iterate
import SyntaxServer.Proofs.Frame.Stream
import SyntaxServer.Proofs.Server.ExitCode

/-! # Serving comes to an end

A connection is served by a loop that reads, handles what it has read and goes on, also after a message that is too
large or cannot be understood. Each read takes a byte of the stream or finds its end, and so the loop is left after no
more turns than the stream has bytes, and one.
-/
namespace SyntaxServer

open SyntaxServer.Frame

/-- What the service of a connection ends with: an exit, the end of the stream, or a stream on which the frames can no
longer be told apart. -/
def Frame.Read.endsService : Read → Bool
  | .endOfStream => true
  | .body b => (Message.parse? b).any (·.isExit)
  | .failed (.messageTooLarge _ _) => false
  | .failed _ => true

theorem Frame.Read.endsService_of_isFinal {r : Read} (h : r.isFinal = true) : r.endsService = true := by
  cases r with
  | endOfStream => rfl
  | body b => cases h
  | failed e => cases e <;> first | rfl | cases h

namespace Connection

/-- One turn of the loop: the next read of the stream is handled. -/
def serveRead [Codec] (engine : Engine) (state : Connection × Bytes) : Connection × Bytes :=
  let (r, rest) := read maxBody state.2
  (state.1.accept engine r, rest)

/-- A connection whose loop goes on has a session that has not been left. -/
structure GoesOn (c : Connection) : Prop where
  not_ended : c.ended = false
  not_exited : c.session.lifecycle ≠ .exited

variable [Codec] (engine : Engine) {c : Connection} {r : Read} {rs : List Read}

theorem accept_endsService (hc : c.GoesOn) :
    (c.accept engine r).ended = r.endsService ∧
      (r.endsService = false → (c.accept engine r).session.lifecycle ≠ .exited) := by
  obtain ⟨hended,hexited⟩ := hc
  cases r with
  | endOfStream => simp [accept, hended, Read.endsService]
  | failed e => cases e <;> simp [accept, hended, Read.endsService, send, hexited]
  | body b =>
    cases hparse : Message.parse? b with
    | none => simp [accept, hended, Read.endsService, receive, hparse, send, hexited]
    | some m =>
      have hexit := (Session.transition_step engine c.session m).lifecycle_eq_exited_iff hexited
      rw [← Message.isExit_iff] at hexit
      simp [accept, hended, Read.endsService, receive, hparse, Session.isExited, hexit]

theorem GoesOn.accept (hc : c.GoesOn) (hr : r.endsService = false) : (c.accept engine r).GoesOn where
  not_ended := (accept_endsService engine hc).1.trans hr
  not_exited := (accept_endsService engine hc).2 hr

theorem GoesOn.foldl_accept (hc : c.GoesOn) (hrs : ∀ r ∈ rs, r.endsService = false) :
    (rs.foldl (·.accept engine ·) c).GoesOn := by
  induction rs generalizing c with
  | nil => exact hc
  | cons r rs ih =>
    obtain ⟨hr,hrest⟩ := List.forall_mem_cons.1 hrs
    exact ih (hc.accept engine hr) hrest

theorem iterate_serveRead (n : Nat) (c : Connection) (s : Bytes) : (serveRead engine)^[n] (c, s) =
    ((reads maxBody n s).1.foldl (·.accept engine ·) c, (reads maxBody n s).2) := by
  induction n generalizing c s with
  | zero => rfl
  | succ n ih =>
    cases hread : read maxBody s with
    | mk r rest =>
      have hturn : serveRead engine (c, s) = (c.accept engine r, rest) := by rw [serveRead, hread]
      rw [Function.iterate_succ_apply, hturn, ih, reads_succ maxBody hread, List.foldl_cons]

/-- Of all reads of a stream those up to the one that ends the service are handled, and no others count. -/
theorem GoesOn.foldl_readAll (hc : c.GoesOn) {n : Nat} {s : Bytes}
    (hbefore : ∀ r ∈ (reads maxBody n s).1, r.endsService = false)
    (hlast : (read maxBody (reads maxBody n s).2).1.endsService = true) :
    (readAll maxBody s).foldl (·.accept engine ·) c =
      (reads maxBody (n + 1) s).1.foldl (·.accept engine ·) c := by
  induction n generalizing c s with
  | zero =>
    cases hread : read maxBody s with
    | mk r rest =>
      have hr : r.endsService = true := by simpa [reads, hread] using hlast
      have hended := (accept_endsService engine hc).1.trans hr
      rw [readAll_eq hread, reads_succ maxBody hread, List.foldl_cons, foldl_accept_of_ended engine hended]
      rfl
  | succ n ih =>
    cases hread : read maxBody s with
    | mk r rest =>
      rw [reads_succ maxBody hread] at hbefore hlast
      obtain ⟨hr,hrest⟩ := List.forall_mem_cons.1 hbefore
      have hmore : r.isFinal = false := by
        rw [← Bool.not_eq_true]
        intro hfinal
        rw [Read.endsService_of_isFinal hfinal] at hr
        cases hr
      have hgo := ih (hc.accept engine hr) hrest hlast
      rw [readAll_eq hread, hmore, reads_succ maxBody hread, List.foldl_cons, List.foldl_cons]
      exact hgo

end Connection

open Connection

/-- Every read but one that finds the end of the stream takes a byte, and leaves what stands behind the bytes it took. It
comes back, unless the limit is greater than any buffer. So a stream ends or breaks within one read for each byte and
one more, and within as many turns the loop that serves a connection is left: at the first read that ends the service,
and not at a message that is too large or malformed. -/
theorem serve_ends_within_reads [Codec] (engine : Engine) (max : Nat) (s : Bytes) :
    ((read max s).2 <:+ s ∧
      ((read max s).1 ≠ .endOfStream → (read max s).2.length < s.length) ∧
      ((read max s).1 = .endOfStream → (read max s).2 = []) ∧
      (max ≤ maxBuffer → read? max s = some (read max s))) ∧
    (∃ n ≤ s.length, (∀ r ∈ (reads max n s).1, r.isFinal = false) ∧
      (read max (reads max n s).2).1.isFinal = true) ∧
    ∃ n ≤ s.length, (∀ r ∈ (reads maxBody n s).1, r.endsService = false) ∧
      (read maxBody (reads maxBody n s).2).1.endsService = true ∧
      (∀ k ≤ n, ((serveRead engine)^[k] ({}, s)).1.ended = false) ∧
      ((serveRead engine)^[n + 1] ({}, s)).1.ended = true ∧
      ((serveRead engine)^[n + 1] ({}, s)).1 = serve engine s := by
  have hnew : GoesOn {} := ⟨rfl,by simp⟩
  refine ⟨⟨(read_isSuffix_tail max s).trans (List.tail_suffix s),read_length_lt,read_rest_of_endOfStream max,
    fun hmax => read?_of_le hmax s⟩,exists_first_read max rfl s,?_⟩
  obtain ⟨n,hn,hbefore,hlast⟩ := exists_first_read maxBody (p := Read.endsService) rfl s
  have hgoesOn (k : Nat) (hk : k ≤ n) : ((serveRead engine)^[k] ({}, s)).1.GoesOn := by
    rw [iterate_serveRead]
    exact hnew.foldl_accept engine fun r hr => hbefore r ((reads_isPrefix maxBody hk s).subset hr)
  have hserve : ((serveRead engine)^[n + 1] ({}, s)).1 = serve engine s := by
    rw [iterate_serveRead]
    exact (hnew.foldl_readAll engine hbefore hlast).symm
  have hended : ((serveRead engine)^[n + 1] ({}, s)).1.ended = true := by
    have hturn := (accept_endsService engine (hgoesOn n le_rfl)).1.trans hlast
    rw [iterate_serveRead] at hturn
    rw [Function.iterate_succ_apply', iterate_serveRead]
    exact hturn
  exact ⟨n,hn,hbefore,hlast,fun k hk => (hgoesOn k hk).not_ended,hended,hserve⟩

/-- A stream with the greatest size that a header can give, and two bytes of the body. -/
def hugeBody : Bytes := Utf8.encode (header 18446744073709551615) ++ [123, 125]

section Huge

attribute [local instance] Codec.sections

/-- The body is too large, and all there is of it is taken with its header; where a blank line is left, the end of the
stream is found and the line is taken with it. -/
theorem serve_ends_within_reads_hugeBody :
    (read maxBody hugeBody).1 = .failed (.messageTooLarge 18446744073709551615 maxBody) ∧
    (read maxBody hugeBody).2.length < hugeBody.length ∧
    read? maxBody hugeBody = some (read maxBody hugeBody) ∧
    (read maxBody [13, 10]).1 = .endOfStream ∧ (read maxBody [13, 10]).2 = [] ∧
    ∃ n ≤ hugeBody.length, (∀ k ≤ n, ((serveRead Engine.tokenless)^[k] ({}, hugeBody)).1.ended = false) ∧
      ((serveRead Engine.tokenless)^[n + 1] ({}, hugeBody)).1 = serve Engine.tokenless hugeBody := by
  have hlarge : (read maxBody hugeBody).1 = .failed (.messageTooLarge 18446744073709551615 maxBody) := by
    decide +kernel
  have hend : (read maxBody [13, 10]).1 = .endOfStream := by decide +kernel
  obtain ⟨⟨_,hlt,_,hback⟩,_,n,hn,_,_,hbefore,_,hserve⟩ := serve_ends_within_reads Engine.tokenless maxBody hugeBody
  obtain ⟨⟨_,_,hrest,_⟩,_⟩ := serve_ends_within_reads Engine.tokenless maxBody [13, 10]
  exact ⟨hlarge,hlt (by simp [hlarge]),hback (by decide),hend,hrest hend,n,hn,hbefore,hserve⟩

end Huge

end SyntaxServer
