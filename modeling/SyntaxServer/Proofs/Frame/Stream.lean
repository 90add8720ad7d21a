import SyntaxServer.Proofs.Frame.RoundTrip

/-! # Reading a stream frame by frame

A read that takes a frame, also one whose body is above the limit, stops where the next frame begins. So the
reads of a stream never get out of step with the frames that were written to it, and behind the last frame
every read finds the end.
-/
namespace SyntaxServer.Frame

/-- Reads made one after the other: what each gives, and the stream that they leave. -/
def reads (max : Nat) : Nat → Bytes → List Read × Bytes
  | 0, s => ([], s)
  | n + 1, s =>
    let (r, rest) := read max s
    let (rs, rest) := reads max n rest
    (r :: rs, rest)

variable (max : Nat)

theorem reads_succ {s rest : Bytes} {r : Read} (h : read max s = (r, rest)) (n : Nat) :
    reads max (n + 1) s = (r :: (reads max n rest).1, (reads max n rest).2) := by
  rw [reads, h]

theorem reads_add (m n : Nat) (s : Bytes) :
    reads max (m + n) s =
      ((reads max m s).1 ++ (reads max n (reads max m s).2).1, (reads max n (reads max m s).2).2) := by
  induction m generalizing s with
  | zero => rw [Nat.zero_add]; rfl
  | succ m ih =>
    cases hread : read max s with
    | mk r rest =>
      rw [Nat.succ_add, reads_succ max hread, reads_succ max hread, ih rest]
      rfl

theorem reads_isPrefix {m n : Nat} (h : m ≤ n) (s : Bytes) : (reads max m s).1 <+: (reads max n s).1 := by
  obtain ⟨k,rfl⟩ := Nat.exists_eq_add_of_le h
  rw [reads_add]
  exact List.prefix_append _ _

theorem reads_nil (n : Nat) : reads max n [] = (List.replicate n .endOfStream, []) := by
  have hend : read max [] = (.endOfStream, []) := rfl
  induction n with
  | zero => rfl
  | succ n ih => rw [reads_succ max hend, ih, List.replicate_succ]

theorem rest_of_endOfStream (h : Headers) (line s : Bytes) :
    (readHeaders h line s).1 = .endOfStream → (readHeaders h line s).2 = [] := by
  induction s generalizing h line with
  | nil =>
    unfold readHeaders
    repeat' split
    all_goals simp
  | cons b s ih =>
    unfold readHeaders
    repeat' split
    · exact ih _ _
    · simp
    · simp
    · exact ih _ _

theorem read_rest_of_endOfStream {s : Bytes} (h : (read max s).1 = .endOfStream) : (read max s).2 = [] := by
  have hheaders := rest_of_endOfStream {} [] s
  unfold read at h ⊢
  split at h
  · next hread =>
    rw [hread] at hheaders
    exact hheaders rfl
  · cases h
  · cases h
  · split at h
    · cases h
    · dsimp only at h
      split at h <;> cases h

/-- Reading comes to whatever the end of the stream counts as, within one read for each byte and one for the end. -/
theorem exists_first_read {p : Read → Bool} (hp : p .endOfStream = true) (s : Bytes) :
    ∃ n ≤ s.length, (∀ r ∈ (reads max n s).1, p r = false) ∧ p (read max (reads max n s).2).1 = true := by
  induction hlength : s.length using Nat.strongRecOn generalizing s with
  | ind k ih =>
    subst hlength
    cases hread : read max s with
    | mk r rest =>
      cases hr : p r with
      | true => exact ⟨0,Nat.zero_le _,by simp [reads],by simpa [reads, hread] using hr⟩
      | false =>
        have hlt : rest.length < s.length := by
          refine length_lt_of_read hread ?_
          rintro rfl
          rw [hp] at hr
          cases hr
        obtain ⟨n,hn,hbefore,hlast⟩ := ih rest.length hlt rest rfl
        refine ⟨n + 1,Nat.succ_le_of_lt (Nat.lt_of_le_of_lt hn hlt),?_,?_⟩
        · rw [reads_succ max hread]
          exact List.forall_mem_cons.2 ⟨hr,hbefore⟩
        · rw [reads_succ max hread]
          exact hlast

/-- As many reads as there are frames take all of them and nothing behind them. -/
theorem reads_flatMap_write_append {bodies : List Bytes} (h : ∀ b ∈ bodies, b.length < 2 ^ 64)
    (rest : Bytes) :
    reads max bodies.length (bodies.flatMap write ++ rest) = (bodies.map (reading max), rest) := by
  induction bodies with
  | nil => rfl
  | cons b bs ih =>
    have hread := read_write max (h b List.mem_cons_self) (bs.flatMap write ++ rest)
    have hrest := ih fun b' hb' => h b' (List.mem_cons_of_mem b hb')
    rw [List.flatMap_cons, List.append_assoc, List.length_cons, reads_succ max hread, hrest, List.map_cons]

/-- However many frames have been read, bodies above the limit among them, the stream stands at the next frame;
behind the last one it ends, and reading until the end gives each body once and in order. -/
theorem reads_bodies_in_order {bodies : List Bytes} (h : ∀ b ∈ bodies, b.length < 2 ^ 64) :
    (∀ before after rest, bodies = before ++ after →
      reads max before.length (bodies.flatMap write ++ rest) =
        (before.map (reading max), after.flatMap write ++ rest)) ∧
    (∀ n, reads max (bodies.length + n) (bodies.flatMap write) =
      (bodies.map (reading max) ++ List.replicate n .endOfStream, [])) ∧
    readAll max (bodies.flatMap write) = bodies.map (reading max) ++ [.endOfStream] := by
  refine ⟨?_,?_,readAll_flatMap_write max h⟩
  · rintro before after rest rfl
    have hbefore : ∀ b ∈ before, b.length < 2 ^ 64 := fun b hb => h b (List.mem_append_left after hb)
    rw [List.flatMap_append, List.append_assoc]
    exact reads_flatMap_write_append max hbefore _
  · intro n
    have hbodies := reads_flatMap_write_append max h []
    rw [List.append_nil] at hbodies
    rw [reads_add, hbodies, reads_nil]

/-- A body that is itself a frame, an empty one, one that is too large and starts like a header, and another
behind it. -/
def awkwardBodies : List Bytes :=
  [write [97, 98, 99], [], 13 :: 10 :: 13 :: 10 :: write [120], [123, 125]]

theorem reads_awkwardBodies_in_order :
    (∀ b ∈ awkwardBodies, b.length < 2 ^ 64) ∧
    reads 24 3 (awkwardBodies.flatMap write) =
      ([.body (write [97, 98, 99]), .body [], .failed (.messageTooLarge 26 24)], write [123, 125]) ∧
    reads 24 6 (awkwardBodies.flatMap write) =
      ([.body (write [97, 98, 99]), .body [], .failed (.messageTooLarge 26 24), .body [123, 125],
        .endOfStream, .endOfStream], []) := by
  have hbodies : ∀ b ∈ awkwardBodies, b.length < 2 ^ 64 := by decide +kernel
  obtain ⟨hbefore,hall,_⟩ := reads_bodies_in_order 24 hbodies
  have hthree := hbefore (awkwardBodies.take 3) (awkwardBodies.drop 3) [] (List.take_append_drop 3 _).symm
  rw [List.append_nil, List.append_nil] at hthree
  exact ⟨hbodies,hthree.trans (by decide +kernel),(hall 2).trans (by decide +kernel)⟩

end SyntaxServer.Frame
