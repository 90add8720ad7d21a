/-! # Results that may be errors

Where only success counts, a result is looked at without its error; where steps follow each other, success of
the whole is taken apart step by step.
-/
namespace SyntaxServer

variable {ε α β : Type}

@[simp] theorem toOption_ok (a : α) : (Except.ok a : Except ε α).toOption = some a := rfl

@[simp] theorem toOption_error (e : ε) : (Except.error e : Except ε α).toOption = none := rfl

@[simp] theorem toOption_bind (x : Except ε α) (f : α → Except ε β) :
    (x >>= f).toOption = x.toOption.bind fun a => (f a).toOption := by
  cases x <;> rfl

@[simp] theorem toOption_pure (a : α) : (pure a : Except ε α).toOption = some a := rfl

@[simp] theorem toOption_map (f : α → β) (x : Except ε α) :
    (f <$> x).toOption = x.toOption.map f := by
  cases x <;> rfl

@[simp] theorem toOption_mapError (f : ε → β) (x : Except ε α) :
    (x.mapError f).toOption = x.toOption := by
  cases x <;> rfl

theorem toOption_eq_some_iff {x : Except ε α} {a : α} : x.toOption = some a ↔ x = .ok a := by
  cases x <;> simp

theorem ok_bind (a : α) (f : α → Except ε β) : (.ok a >>= f) = f a := rfl

theorem error_bind (e : ε) (f : α → Except ε β) : (.error e >>= f) = .error e := rfl

theorem mapError_ok (f : ε → β) (a : α) : (Except.ok a).mapError f = .ok a := rfl

theorem mapError_error (f : ε → β) (e : ε) : (.error e : Except ε α).mapError f = .error (f e) := rfl

theorem bind_eq_ok {x : Except ε α} {f : α → Except ε β} {b : β} (h : x >>= f = .ok b) :
    ∃ a, x = .ok a ∧ f a = .ok b := by
  cases x with
  | ok a => exact ⟨a,rfl,h⟩
  | error e => cases h

theorem bind_eq_error_iff {x : Except ε α} {f : α → Except ε β} {e : ε} :
    x >>= f = .error e ↔ x = .error e ∨ ∃ a, x = .ok a ∧ f a = .error e := by
  constructor
  · intro h
    cases x with
    | ok a => exact Or.inr ⟨a,rfl,h⟩
    | error e' =>
      cases h
      exact Or.inl rfl
  · rintro (rfl | ⟨a,rfl,h⟩)
    · rfl
    · exact h

theorem mapError_eq_error_iff {x : Except ε α} {f : ε → β} {e : β} :
    x.mapError f = .error e ↔ ∃ e', x = .error e' ∧ f e' = e := by
  constructor
  · intro h
    cases x with
    | ok a => cases h
    | error e' =>
      cases h
      exact ⟨e',rfl,rfl⟩
  · rintro ⟨e',rfl,rfl⟩
    rfl

theorem map_eq_error_iff {x : Except ε α} {f : α → β} {e : ε} : f <$> x = .error e ↔ x = .error e := by
  constructor
  · intro h
    cases x with
    | ok a => cases h
    | error e' =>
      cases h
      rfl
  · rintro rfl
    rfl

theorem forM_eq_ok_iff {f : α → Except ε Unit} {xs : List α} : xs.forM f = .ok () ↔ ∀ x ∈ xs, f x = .ok () := by
  induction xs with
  | nil => simp [pure, Except.pure]
  | cons x xs ih =>
    rw [List.forM_eq_forM, List.forM_cons, List.forall_mem_cons, ← ih]
    cases f x with
    | ok u => simp [ok_bind]
    | error e => simp [error_bind]

theorem foldlM_eq_error_iff {f : β → α → Except ε β} {xs : List α} {b : β} {e : ε} :
    xs.foldlM f b = .error e ↔
      ∃ before x after b', xs = before ++ x :: after ∧ before.foldlM f b = .ok b' ∧ f b' x = .error e := by
  constructor
  · intro h
    induction xs generalizing b with
    | nil => cases h
    | cons x xs ih =>
      rw [List.foldlM_cons, bind_eq_error_iff] at h
      rcases h with h | ⟨b₁,hx,h⟩
      · exact ⟨[],x,xs,b,rfl,rfl,h⟩
      · obtain ⟨before,y,after,b',rfl,hbefore,hy⟩ := ih h
        refine ⟨x :: before,y,after,b',rfl,?_,hy⟩
        rw [List.foldlM_cons, hx]
        exact hbefore
  · rintro ⟨before,x,after,b',rfl,hbefore,hx⟩
    rw [List.foldlM_append, hbefore]
    change List.foldlM f b' (x :: after) = _
    rw [List.foldlM_cons, hx]
    rfl

end SyntaxServer
