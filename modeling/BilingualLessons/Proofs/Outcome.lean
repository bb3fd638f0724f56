namespace BilingualLessons

/-!
# Computations that may fail

How a result and a fault pass through the steps of a computation, and what a computation that
succeeds or fails says about its steps (`bind_eq_ok_iff`, `bind_eq_error_iff`, `forM_eq_ok_iff`).
`exists_error_iff` tells from its results when it fails.
-/

variable {ε α β : Type}

@[simp] theorem ok_bind (a : α) (f : α → Except ε β) : (Except.ok a >>= f) = f a := rfl

@[simp] theorem error_bind (e : ε) (f : α → Except ε β) :
    ((Except.error e : Except ε α) >>= f) = .error e := rfl

@[simp] theorem map_ok (f : α → β) (a : α) : f <$> (Except.ok a : Except ε α) = .ok (f a) := rfl

@[simp] theorem pure_eq_ok (a : α) : (pure a : Except ε α) = .ok a := rfl

@[simp] theorem bind_ok (x : Except ε α) : (x >>= Except.ok) = x := by
  cases x <;> rfl

/-- A last step that cannot fail only changes the result. -/
@[simp] theorem bind_ok_comp (x : Except ε α) (f : α → β) :
    (x >>= fun a => Except.ok (f a)) = f <$> x := by
  cases x <;> rfl

/-- Two steps succeed when the first does and then the second. -/
theorem bind_eq_ok_iff {x : Except ε α} {f : α → Except ε β} {b : β} :
    (x >>= f) = .ok b ↔ ∃ a, x = .ok a ∧ f a = .ok b := by
  cases x <;> simp

/-- Two steps fail when the first does, or when it succeeds and the second fails. -/
theorem bind_eq_error_iff {x : Except ε α} {f : α → Except ε β} {e : ε} :
    (x >>= f) = .error e ↔ x = .error e ∨ ∃ a, x = .ok a ∧ f a = .error e := by
  cases x <;> simp

@[simp] theorem mapError_ok {ε' : Type} (f : ε → ε') (a : α) :
    (Except.ok a : Except ε α).mapError f = .ok a := rfl

@[simp] theorem mapError_error {ε' : Type} (f : ε → ε') (e : ε) :
    (Except.error e : Except ε α).mapError f = .error (f e) := rfl

/-- Another word for the fault does not touch a result. -/
@[simp] theorem mapError_eq_ok_iff {ε' : Type} {f : ε → ε'} {x : Except ε α} {a : α} :
    x.mapError f = .ok a ↔ x = .ok a := by
  cases x <;> simp

/-- A computation fails exactly if nothing is a result of it. -/
theorem exists_error_iff {x : Except ε α} {p : α → Prop} (h : ∀ a, x = .ok a ↔ p a) :
    (∃ e, x = .error e) ↔ ∀ a, ¬p a := by
  cases x with
  | ok a =>
    have ha : p a := (h a).mp rfl
    simpa using ⟨a, ha⟩
  | error e =>
    have hnone : ∀ a, ¬p a := fun a ha => nomatch (h a).mpr ha
    simpa using hnone

/-- A check of every element succeeds when the check of each does. -/
theorem forM_eq_ok_iff {check : α → Except ε Unit} {as : List α} :
    as.forM check = .ok () ↔ ∀ a ∈ as, check a = .ok () := by
  induction as with
  | nil => simp
  | cons a as ih =>
    have hsteps : (a :: as).forM check = (check a >>= fun _ => as.forM check) := rfl
    rw [hsteps, bind_eq_ok_iff, List.forall_mem_cons, ← ih]
    exact ⟨fun ⟨_, hfirst, hrest⟩ => ⟨hfirst, hrest⟩, fun ⟨hfirst, hrest⟩ => ⟨(), hfirst, hrest⟩⟩

end BilingualLessons
