import BilingualLessons.Lesson.WordChoice
import BilingualLessons.Proofs.Outcome
import Mathlib.Data.List.Basic

namespace BilingualLessons.Lesson

/-!
# Steps of a plan

How a step of a plan runs from a state of the vocabulary, and what the parts of a planner come to.

* `Planning.runFrom` — a step from a state: its result and the state it leaves.  Its equations for
  the parts of a step (`runFrom_bind` and others) take the place of unfolding it.
* `Planning.Yields` — a step that succeeds from every state, with results of a kind; the steps of
  such steps are such steps (`Yields.bind`).  `Planning.Always` — a step with one result, which may
  be a fault.
* `mem_candidates_of_anyTemplate`, `template_yields_of_candidates`, `renderSection_runFrom` —
  templates and sections.
* `ask_search`, `ask_byCategory`, `ask_sample` — a store in memory answers every question, so the
  choice of words never fails (`chooseWords_yields`).
-/

variable {σ α β : Type}

/-! ### Running a step -/

/-- What a step comes to from a state of the vocabulary, and the state that it leaves. -/
def Planning.runFrom (step : Planning σ α) (s : σ) : Except PlanFault α × σ := step.run.run s

theorem runFrom_pure (a : α) (s : σ) : (pure a : Planning σ α).runFrom s = (.ok a, s) := rfl

theorem runFrom_throw (fault : PlanFault) (s : σ) :
    (throw fault : Planning σ α).runFrom s = (.error fault, s) := rfl

/-- A computation that only changes the state succeeds. -/
theorem runFrom_lift (x : StateM σ α) (s : σ) :
    (liftM x : Planning σ α).runFrom s = (.ok (x.run s).1, (x.run s).2) := rfl

/-- The second of two steps runs from the state that the first leaves, if the first succeeds. -/
theorem runFrom_bind (step : Planning σ α) (next : α → Planning σ β) (s : σ) :
    (step >>= next).runFrom s =
      match step.runFrom s with
      | (.ok a, s') => (next a).runFrom s'
      | (.error fault, s') => (.error fault, s') := by
  have hbind : (step >>= next).runFrom s
      = (ExceptT.bindCont next (step.runFrom s).1 : StateM σ (Except PlanFault β))
          (step.runFrom s).2 := rfl
  rw [hbind]
  rcases step.runFrom s with ⟨result, s'⟩
  cases result <;> rfl

theorem runFrom_bind_of_ok {step : Planning σ α} {next : α → Planning σ β} {s s' : σ} {a : α}
    (h : step.runFrom s = (.ok a, s')) :
    (step >>= next).runFrom s = (next a).runFrom s' := by
  rw [runFrom_bind, h]

/-- Two steps succeed only if the first does, and then the second. -/
theorem exists_of_runFrom_bind {step : Planning σ α} {next : α → Planning σ β} {s s'' : σ} {b : β}
    (h : (step >>= next).runFrom s = (.ok b, s'')) :
    ∃ a s', step.runFrom s = (.ok a, s') ∧ (next a).runFrom s' = (.ok b, s'') := by
  rw [runFrom_bind] at h
  rcases hstep : step.runFrom s with ⟨result, s'⟩
  rw [hstep] at h
  cases result with
  | ok a => exact ⟨a, s', rfl, h⟩
  | error fault => exact absurd (Prod.mk.inj h).1 (by simp)

/-- The same with a computation that only changes the state. -/
theorem runFrom_lift_bind (x : StateM σ α) (next : α → Planning σ β) (s : σ) :
    ((liftM x : Planning σ α) >>= next).runFrom s = (next (x.run s).1).runFrom (x.run s).2 :=
  runFrom_bind_of_ok (runFrom_lift x s)

/-- A question is answered as the vocabulary answers it. -/
theorem runFrom_ask_of_ok {answer : StateM σ (Except String α)} {a : α} {s s' : σ}
    (h : answer.run s = (.ok a, s')) : (ask answer).runFrom s = (.ok a, s') := by
  rw [ask, runFrom_lift_bind, h]
  rfl

/-! ### Steps that succeed -/

/-- From every state the step succeeds, with a result of a kind. -/
def Planning.Yields (step : Planning σ α) (P : α → Prop) : Prop :=
  ∀ s, ∃ a s', step.runFrom s = (.ok a, s') ∧ P a

/-- Any result of the step is of the kind. -/
theorem Planning.Yields.of_run {step : Planning σ α} {P : α → Prop} (h : step.Yields P) {a : α}
    {s s' : σ} (hrun : step.runFrom s = (.ok a, s')) : P a := by
  obtain ⟨b, s'', hstep, hb⟩ := h s
  obtain rfl : a = b := Except.ok.inj (Prod.mk.inj (hrun.symm.trans hstep)).1
  exact hb

theorem Planning.Yields.pure {P : α → Prop} {a : α} (h : P a) :
    (Pure.pure a : Planning σ α).Yields P :=
  fun s => ⟨a, s, runFrom_pure a s, h⟩

/-- Two steps succeed if the second does after every result of the first. -/
theorem Planning.Yields.bind {step : Planning σ α} {next : α → Planning σ β} {P : α → Prop}
    {Q : β → Prop} (h : step.Yields P) (hnext : ∀ a, P a → (next a).Yields Q) :
    (step >>= next).Yields Q := by
  intro s
  obtain ⟨a, s', hstep, ha⟩ := h s
  obtain ⟨b, s'', hrest, hb⟩ := hnext a ha s'
  exact ⟨b, s'', by rw [runFrom_bind_of_ok hstep, hrest], hb⟩

theorem Planning.Yields.imp {step : Planning σ α} {P Q : α → Prop} (h : step.Yields P)
    (himp : ∀ a, P a → Q a) : step.Yields Q := by
  intro s
  obtain ⟨a, s', hrun, ha⟩ := h s
  exact ⟨a, s', hrun, himp a ha⟩

/-- From every state the step has this result. -/
def Planning.Always (step : Planning σ α) (result : Except PlanFault α) : Prop :=
  ∀ s, ∃ s', step.runFrom s = (result, s')

/-- Two steps always have the result that the second has after every result of the first. -/
theorem Planning.Yields.bind_always {step : Planning σ α} {next : α → Planning σ β} {P : α → Prop}
    {result : Except PlanFault β} (h : step.Yields P)
    (hnext : ∀ a, P a → (next a).Always result) : (step >>= next).Always result := by
  intro s
  obtain ⟨a, s', hstep, ha⟩ := h s
  obtain ⟨s'', hrest⟩ := hnext a ha s'
  exact ⟨s'', by rw [runFrom_bind_of_ok hstep, hrest]⟩

namespace Planner

variable {planner : Planner σ}

/-! ### Templates and sections -/

/-- Whichever position is picked, the template is one of the candidates. -/
theorem mem_candidates_of_anyTemplate {kind : LessonKind} {level : Level}
    {template : LessonTemplate} {s s' : σ}
    (h : (planner.anyTemplate kind level).runFrom s = (.ok template, s')) :
    template ∈ planner.shelf.candidates kind level := by
  unfold anyTemplate at h
  split at h
  · exact absurd h (by simp [runFrom_throw])
  · next first others hcandidates =>
    rw [runFrom_lift_bind, runFrom_pure] at h
    obtain rfl := Except.ok.inj (Prod.mk.inj h).1
    rw [hcandidates]
    -- a position beyond the end stands for the first candidate
    cases hposition : (first :: others)[(StateT.run (planner.pick (others.length + 1)) s).1]? with
    | none => exact List.mem_cons_self
    | some picked => exact List.mem_of_getElem? hposition

/-- Without a template of its own, a section takes the only candidate, whatever is picked. -/
theorem template_yields_of_candidates {id : String} {kind : LessonKind} {request : Request}
    {template : LessonTemplate} (hid : planner.shelf.byId? id = none)
    (hcandidates : planner.shelf.candidates kind request.level = [template]) :
    (planner.template id kind request).Yields (· = template) := by
  intro s
  rw [Planner.template, hid]
  simp only [anyTemplate, hcandidates]
  rw [runFrom_lift_bind]
  refine ⟨_, _, runFrom_pure _ _, ?_⟩
  -- the first position has the template, and a position beyond the end stands for the first
  cases (StateT.run (planner.pick ([].length + 1)) s).1 <;> rfl

/-- A section is rendered without a look at the vocabulary. -/
theorem renderSection_runFrom (template : LessonTemplate) (context : Template.Context)
    (title : String) (kind : SectionKind) (s : σ) :
    (planner.renderSection template context title kind).runFrom s =
      (match template.render planner.nesting context with
        | .ok content =>
          .ok { title, content, kind, metadata := [("templateId", .string template.id)] }
        | .error fault => .error (.rendering fault), s) := by
  rw [renderSection, runFrom_bind, render]
  cases template.render planner.nesting context <;> rfl

/-! ### Questions to a store in memory -/

section

variable {store : Vocabulary.Store}
  {draw : Nat → List Vocabulary.Item → StateM σ (List Vocabulary.Item)}
  (hstore : planner.provider = store.provider draw)
include hstore

theorem ask_search (search : Vocabulary.Search) (s : σ) :
    (ask (planner.provider.search search)).runFrom s = (.ok (store.search search), s) := by
  rw [hstore]
  exact runFrom_ask_of_ok rfl

theorem ask_byCategory (category : String) (filter : Vocabulary.Filter) (s : σ) :
    (ask (planner.provider.byCategory category filter)).runFrom s
      = (.ok (store.byCategory category filter), s) := by
  rw [hstore]
  exact runFrom_ask_of_ok rfl

/-- A sample is what is drawn from the items that pass the filter. -/
theorem ask_sample (count : Nat) (filter : Vocabulary.Filter) (s : σ) :
    (ask (planner.provider.sample count filter)).runFrom s
      = (.ok ((draw count (store.pool filter)).run s).1,
        ((draw count (store.pool filter)).run s).2) := by
  rw [hstore]
  exact runFrom_ask_of_ok rfl

/-- The words of categories are those that the store has, one category after the other. -/
theorem categoryWords_runFrom (filter : Vocabulary.Filter) (wanted : Vocabulary.Item → Bool)
    (categories : List String) (s : σ) :
    (planner.categoryWords filter wanted categories).runFrom s
      = (.ok (categories.flatMap fun category =>
          (store.byCategory category filter).filter wanted), s) := by
  induction categories with
  | nil => rfl
  | cons category rest ih =>
    rw [categoryWords, runFrom_bind_of_ok (ask_byCategory hstore category filter s),
      runFrom_bind_of_ok ih]
    rfl

/-- **Words for every request.** The choice of words never fails, and it keeps to the limit. -/
theorem chooseWords_yields (request : Request) (options : Options) :
    (planner.chooseWords request options).Yields fun items =>
      items.length ≤ planner.itemLimit request options := by
  have hwords : (planner.wordsUpTo request (planner.itemLimit request options)).Yields
      fun _ => True := by
    intro s
    unfold wordsUpTo
    split
    · exact ⟨_, _, ask_sample hstore _ _ s, trivial⟩
    · have hpage : ∀ search, (ask (planner.provider.search search)).Yields fun _ => True :=
        fun search s => ⟨_, s, ask_search hstore search s, trivial⟩
      exact (hpage _).bind (fun page _ => .pure trivial) s
    · exact ⟨_, s, categoryWords_runFrom hstore _ _ _ s, trivial⟩
  exact hwords.bind fun items _ => .pure (List.length_take_le _ _)

end

end Planner

end BilingualLessons.Lesson
