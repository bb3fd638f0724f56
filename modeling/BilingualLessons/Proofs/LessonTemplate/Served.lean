import BilingualLessons.Proofs.Lesson.Planning
import BilingualLessons.Proofs.LessonTemplate.Index
import BilingualLessons.Proofs.LessonTemplate.Validity
import BilingualLessons.Proofs.Loading.Acceptance
import BilingualLessons.Proofs.Template.RenderFaults

namespace BilingualLessons

/-!
# The templates that are served

A repository checks the records that it loads under its nesting limit.  The built-in template takes
their place without a check.

* `LessonTemplate.IsValid` — a template that passes all checks under a nesting limit, so that its
  body parses and rendering it has no fault that lies in the body.
* `Shelf.Returns` — the answers of a shelf that give a template.
* `served_templates_are_valid_iff` — when all templates that a repository serves are valid for it.
-/

open Loading Template

namespace LessonTemplate

/-! ### Valid templates -/

/-- Where the body parses, a fault of rendering lies in the values. -/
theorem isOfSource_of_render {limit : Nat} {template : LessonTemplate} {context : Context}
    {nodes : List Node} {fault : Fault} (hparse : parse limit template.body = .ok nodes)
    (h : template.render limit context = .error (.template fault)) :
    fault.isOfSource = false := by
  rw [render, hparse] at h
  rcases bind_eq_error_iff.mp h with hcheck | ⟨_, _, hrest⟩
  · -- the check of the context has faults of its own kind
    cases hresult : template.checkContext context <;> simp [hresult] at hcheck
  · cases hresult : renderNodes [.values context.values, .values (template.defaults context)] nodes
      with
    | ok text => simp [hresult] at hrest
    | error inner =>
      simp only [mapError_ok, mapError_error, ok_bind, hresult, Except.error.injEq,
        RenderFault.template.injEq] at hrest
      exact hrest ▸ isOfSource_of_renderNodes hresult

/-- A template that passes all checks under a nesting limit. -/
structure IsValid (limit : Nat) (template : LessonTemplate) : Prop where
  passes : template.validate limit = .ok ()
  parses : ∃ nodes, parse limit template.body = .ok nodes
  /-- Rendering never fails with a malformed tag, an unclosed block or too deep a nesting. -/
  renders : ∀ context fault, template.render limit context = .error (.template fault) →
    fault.isOfSource = false

theorem isValid_of_validate {limit : Nat} {template : LessonTemplate}
    (h : template.validate limit = .ok ()) : template.IsValid limit := by
  obtain ⟨nodes, hparse⟩ := (brokenRules_eq_nil_iff.mp (validate_eq_ok_iff.mp h)).parses
  exact ⟨h, ⟨nodes, hparse⟩, fun _ _ hrender => isOfSource_of_render hparse hrender⟩

end LessonTemplate

/-! ### What a shelf returns -/

/-- The answers of a shelf that give a template: among all of its templates, for an id, or for
    lessons of a kind and level, whichever candidate is picked. -/
inductive Shelf.Returns (shelf : Shelf) (template : LessonTemplate) : Prop
  | all (h : template ∈ shelf.records)
  | byId (id : String) (h : shelf.byId? id = some template)
  | any {σ : Type} (planner : Lesson.Planner σ) (hshelf : planner.shelf = shelf)
    (kind : LessonKind) (level : Level) (s s' : σ)
    (h : (planner.anyTemplate kind level).runFrom s = (.ok template, s'))

/-- Every answer gives one of the templates. -/
theorem Shelf.mem_records_of_returns {shelf : Shelf} {template : LessonTemplate}
    (h : shelf.Returns template) : template ∈ shelf.records := by
  cases h with
  | all h => exact h
  | byId id h => exact (mem_records_of_byId? h).1
  | any planner hshelf kind level s s' h =>
    have hcandidate := Lesson.Planner.mem_candidates_of_anyTemplate h
    rw [hshelf] at hcandidate
    exact (mem_candidates_iff.mp hcandidate).1

/-- **Served templates are valid.** A repository over any source, with any nesting limit, returns
    nothing but templates that are valid for it, unless the limit forbids all blocks and the
    built-in template, which has one, stands in for the records. -/
theorem served_templates_are_valid_iff (limit : Nat) (source : Source) :
    let shelf := (templateRepository limit source).contents
    (∀ template, Shelf.Returns shelf template → template.IsValid limit) ↔
      0 < limit ∨ shelf.report.usedFallback = false := by
  intro shelf
  constructor
  · intro hall
    cases hfallback : shelf.report.usedFallback with
    | false => exact .inr rfl
    | true =>
      have hserved : shelf.records = [LessonTemplate.fallback] := records_of_usedFallback hfallback
      have hreturns : Shelf.Returns shelf LessonTemplate.fallback := .all (by simp [hserved])
      exact .inl (LessonTemplate.validate_fallback_iff.mp (hall _ hreturns).passes)
  · intro hcase template hreturns
    have hmem := Shelf.mem_records_of_returns hreturns
    -- a record was checked under the limit; the built-in template was not, and needs one level
    rcases judge_of_mem_contents hmem with ⟨kept, record, hjudge⟩ | ⟨hfallback, rfl⟩
    · have haccepted := (LessonTemplate.judge_eq_ok_iff.mp hjudge).1
      have hvalid := (LessonTemplate.ofRecord_eq_ok_iff.mp haccepted).2
      exact LessonTemplate.isValid_of_validate hvalid
    · rcases hcase with hpos | hloaded
      · exact LessonTemplate.isValid_of_validate (LessonTemplate.validate_fallback_iff.mpr hpos)
      · exact absurd (hfallback.symm.trans hloaded) (by decide)

/-- Without records and with no block allowed, the template that is served does not pass the check
    of its own repository. -/
theorem fallback_is_served_where_it_is_invalid :
    let shelf := (templateRepository 0 (.records "records" [])).contents
    Shelf.Returns shelf LessonTemplate.fallback ∧
      LessonTemplate.fallback.validate 0 = .error
        (.invalidTemplate LessonTemplate.fallbackId [.bodyParses (.nestingTooDeep 0 5)]) ∧
      ¬ ∀ template, Shelf.Returns shelf template → template.validate 0 = .ok () := by
  intro shelf
  have hreturns : Shelf.Returns shelf LessonTemplate.fallback := .all (by decide +kernel)
  have hfault : LessonTemplate.fallback.validate 0 = .error
      (.invalidTemplate LessonTemplate.fallbackId [.bodyParses (.nestingTooDeep 0 5)]) := by
    decide +kernel
  refine ⟨hreturns, hfault, fun hall => ?_⟩
  exact absurd ((hall _ hreturns).symm.trans hfault) (by simp)

end BilingualLessons
