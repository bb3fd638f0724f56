import BilingualLessons.Proofs.Lesson.Planning

namespace BilingualLessons.Lesson

/-!
# Attempts at sections

* `Trial`, `tryAll` — attempts with what came of each; `rendered` and `leftOut` — the two parts of
  them.
* `attemptAll_run` — making attempts one after the other keeps both parts.
* `requireSection_of_rendered`, `requireSection_of_none` — a lesson needs one section.
-/

variable {σ : Type}

/-! ### Trials -/

/-- An attempt and what came of it. -/
structure Trial where
  name : String
  result : Except PlanFault Section
deriving DecidableEq, Repr

/-- Makes every attempt, in order, and keeps what came of each. -/
def tryAll : List (Attempt σ) → StateM σ (List Trial)
  | [] => return []
  | attempt :: rest => do
    let result ← attempt.make.run
    let trials ← tryAll rest
    return ⟨attempt.name, result⟩ :: trials

/-- What is left out of a lesson for a trial: its name and the reason, if it failed. -/
def Trial.skipped? (trial : Trial) : Option SkippedSection :=
  match trial.result with
  | .ok _ => none
  | .error fault => some ⟨trial.name, fault.message⟩

/-- The sections that rendered, in the order of the trials. -/
def rendered (trials : List Trial) : List Section :=
  trials.filterMap fun trial => trial.result.toOption

/-- What failed, in the order of the trials. -/
def leftOut (trials : List Trial) : List SkippedSection := trials.filterMap Trial.skipped?

@[simp] theorem rendered_ok (name : String) (part : Section) (trials : List Trial) :
    rendered (⟨name, .ok part⟩ :: trials) = part :: rendered trials := rfl

@[simp] theorem rendered_error (name : String) (fault : PlanFault) (trials : List Trial) :
    rendered (⟨name, .error fault⟩ :: trials) = rendered trials := rfl

@[simp] theorem leftOut_ok (name : String) (part : Section) (trials : List Trial) :
    leftOut (⟨name, .ok part⟩ :: trials) = leftOut trials := rfl

@[simp] theorem leftOut_error (name : String) (fault : PlanFault) (trials : List Trial) :
    leftOut (⟨name, .error fault⟩ :: trials) = ⟨name, fault.message⟩ :: leftOut trials := rfl

/-- An attempt runs from the state that the attempts before it leave. -/
theorem tryAll_cons_run (attempt : Attempt σ) (rest : List (Attempt σ)) (s : σ) :
    (tryAll (attempt :: rest)).run s =
      let (result, s') := attempt.make.runFrom s
      let (trials, s'') := (tryAll rest).run s'
      (⟨attempt.name, result⟩ :: trials, s'') := rfl

/-- There is one trial for each attempt, in order. -/
theorem map_name_tryAll (attempts : List (Attempt σ)) (s : σ) :
    ((tryAll attempts).run s).1.map (·.name) = attempts.map (·.name) := by
  induction attempts generalizing s with
  | nil => rfl
  | cons attempt rest ih =>
    rw [tryAll_cons_run]
    exact congrArg (attempt.name :: ·) (ih (attempt.make.runFrom s).2)

/-- Attempts that fail in one way from every state do so one after the other. -/
theorem tryAll_of_always {attempts : List (Attempt σ)} {fault : PlanFault}
    (h : ∀ attempt ∈ attempts, attempt.make.Always (.error fault)) (s : σ) :
    ∃ s', (tryAll attempts).run s
      = (attempts.map fun attempt => ⟨attempt.name, .error fault⟩, s') := by
  induction attempts generalizing s with
  | nil => exact ⟨s, rfl⟩
  | cons attempt rest ih =>
    obtain ⟨s₁, hfirst⟩ := h attempt List.mem_cons_self s
    obtain ⟨s₂, hrest⟩ := ih (fun other hother => h other (List.mem_cons_of_mem _ hother)) s₁
    refine ⟨s₂, ?_⟩
    rw [tryAll_cons_run, hfirst]
    simp only [hrest, List.map_cons]

/-- Both parts of the trials are kept. -/
theorem attemptAll_run (attempts : List (Attempt σ)) (s : σ) :
    (attemptAll attempts).run s =
      let (trials, s') := (tryAll attempts).run s
      (⟨rendered trials, leftOut trials⟩, s') := by
  induction attempts generalizing s with
  | nil => rfl
  | cons attempt rest ih =>
    -- one attempt behind the other, with the state that the first one leaves
    have hstep : (attemptAll (attempt :: rest)).run s =
        let (result, s') := attempt.make.runFrom s
        let (outcome, s'') := (attemptAll rest).run s'
        (outcome.add attempt.name result, s'') := rfl
    rw [hstep, tryAll_cons_run]
    rcases attempt.make.runFrom s with ⟨result, s'⟩
    cases result <;> simp only [ih] <;> rfl

/-- Every trial is in one of the two parts. -/
theorem length_rendered_add_leftOut (trials : List Trial) :
    (rendered trials).length + (leftOut trials).length = trials.length := by
  induction trials with
  | nil => rfl
  | cons trial rest ih =>
    rcases trial with ⟨name, result⟩
    cases result <;> simp only [rendered_ok, rendered_error, leftOut_ok, leftOut_error,
      List.length_cons] <;> omega

/-- Nothing rendered if every trial failed. -/
theorem rendered_eq_nil_iff {trials : List Trial} :
    rendered trials = [] ↔ ∀ trial ∈ trials, ∃ fault, trial.result = .error fault := by
  induction trials with
  | nil => simp [rendered]
  | cons trial rest ih =>
    rcases trial with ⟨name, result⟩
    cases result <;> simp [ih]

/-- Something rendered if some trial succeeded. -/
theorem rendered_ne_nil_iff {trials : List Trial} :
    rendered trials ≠ [] ↔ ∃ trial ∈ trials, ∃ part, trial.result = .ok part := by
  induction trials with
  | nil => simp [rendered]
  | cons trial rest ih =>
    rcases trial with ⟨name, result⟩
    cases result <;> simp [ih]

/-- Trials that fail in one way leave every name out for one reason. -/
theorem parts_of_failures (names : List String) (fault : PlanFault) :
    rendered (names.map fun name => ⟨name, .error fault⟩) = [] ∧
      leftOut (names.map fun name => ⟨name, .error fault⟩)
        = names.map fun name => ⟨name, fault.message⟩ := by
  induction names with
  | nil => exact ⟨rfl, rfl⟩
  | cons name rest ih => simp [ih.1, ih.2]

/-- If nothing rendered, every name is left out, with the reason of its own fault. -/
theorem leftOut_of_rendered_eq_nil {trials : List Trial} (h : rendered trials = []) :
    ∃ faults : List PlanFault,
      trials.map (·.result) = faults.map .error ∧
      leftOut trials
        = List.zipWith (fun name fault => ⟨name, fault.message⟩) (trials.map (·.name)) faults := by
  induction trials with
  | nil => exact ⟨[], rfl, rfl⟩
  | cons trial rest ih =>
    rcases trial with ⟨name, result⟩
    -- one section would do, so every attempt failed
    cases result with
    | ok part => exact absurd h (by simp)
    | error fault =>
      obtain ⟨faults, hresults, hleft⟩ := ih h
      exact ⟨fault :: faults, by simp [hresults], by simp [hleft]⟩

/-! ### The section that a lesson needs -/

section

variable {kind : LessonKind} {attempts : List (Attempt σ)} {trials : List Trial} {s s' : σ}

theorem requireSection_of_rendered (h : (tryAll attempts).run s = (trials, s'))
    (hsome : rendered trials ≠ []) :
    (requireSection kind attempts).runFrom s = (.ok ⟨rendered trials, leftOut trials⟩, s') := by
  have hempty : (rendered trials).isEmpty = false := by simpa using hsome
  rw [requireSection, runFrom_lift_bind, attemptAll_run, h]
  simp only [hempty, Bool.false_eq_true, if_false]
  rfl

theorem requireSection_of_none (h : (tryAll attempts).run s = (trials, s'))
    (hnone : rendered trials = []) :
    (requireSection kind attempts).runFrom s
      = (.error (.lesson (.noSections kind (leftOut trials))), s') := by
  rw [requireSection, runFrom_lift_bind, attemptAll_run, h]
  simp only [hnone, List.isEmpty_nil, if_true]
  rfl

end

end BilingualLessons.Lesson
