import BilingualLessons.Proofs.Lesson.Planning
import BilingualLessons.Proofs.LessonTemplate.Index
import BilingualLessons.Proofs.Loading.Reloading

namespace BilingualLessons

/-!
# Selecting a template

The index of a shelf is never compared with the list of its templates: it is filled once and then
looked up.  What a shelf gives is told here by the list alone.

* `Shelf.Gives` — what a shelf may give for lessons of a kind and level, whatever is picked.
* `Shelf.gives_ok_iff`, `Shelf.gives_error_iff` — every candidate may be given, and nothing else;
  there is a fault only where there is no candidate.
* `LessonTemplate.nodup_ids_contents` — the templates that a repository serves have ids of their
  own, so that no template takes the place of another in the index (`Shelf.byId?_eq_some_iff`).
* `selection_agrees_with_the_records` — the index of what a repository serves.
-/

open Lesson Loading

namespace Shelf

variable {shelf : Shelf} {template : LessonTemplate} {kind : LessonKind} {level : Level}

/-! ### Some template for a lesson -/

/-- The results that a shelf may have for lessons of a kind and level, whatever else the planner is
    made of, in whatever state it is, and whichever position it picks. -/
def Gives (shelf : Shelf) (kind : LessonKind) (level : Level)
    (result : Except PlanFault LessonTemplate) : Prop :=
  ∃ (σ : Type) (planner : Planner σ) (s s' : σ),
    planner.shelf = shelf ∧ (planner.anyTemplate kind level).runFrom s = (result, s')

/-- A planner over a shelf that always picks the same position. -/
def alwaysPicking (shelf : Shelf) (position : Nat) : Planner Unit where
  shelf
  catalogue := (Grammar.conceptRepository (.records "" [])).contents
  provider := (Vocabulary.Store.mk []).provider Vocabulary.drawFirst
  pick _ := return position

/-- Each candidate is given where its position is picked, and no other template ever is. -/
theorem gives_ok_iff :
    shelf.Gives kind level (.ok template) ↔ template ∈ shelf.candidates kind level := by
  constructor
  · rintro ⟨σ, planner, s, s', rfl, hrun⟩
    exact Planner.mem_candidates_of_anyTemplate hrun
  · -- the template is given if its position is picked
    intro hmem
    obtain ⟨position, hposition⟩ := List.mem_iff_getElem?.mp hmem
    refine ⟨Unit, shelf.alwaysPicking position, (), (), rfl, ?_⟩
    have hshelf : (shelf.alwaysPicking position).shelf = shelf := rfl
    rw [Planner.anyTemplate, hshelf]
    cases hcandidates : shelf.candidates kind level with
    | nil => exact absurd hmem (by simp [hcandidates])
    | cons first others =>
      rw [hcandidates] at hposition
      have hpicked : (first :: others)[position]?.getD first = template := by
        rw [hposition, Option.getD_some]
      rw [← hpicked]
      rfl

/-- The only fault is that there is no candidate. -/
theorem gives_error_iff {fault : PlanFault} :
    shelf.Gives kind level (.error fault) ↔
      shelf.candidates kind level = [] ∧ fault = .lesson (.noTemplate kind level) := by
  constructor
  · rintro ⟨σ, planner, s, s', rfl, hrun⟩
    rw [Planner.anyTemplate] at hrun
    -- with a candidate some template is given, whichever position is picked
    cases hcandidates : planner.shelf.candidates kind level with
    | nil =>
      rw [hcandidates, runFrom_throw] at hrun
      exact ⟨rfl, (Except.error.inj (Prod.mk.inj hrun).1).symm⟩
    | cons first others =>
      rw [hcandidates, runFrom_lift_bind, runFrom_pure] at hrun
      exact absurd (Prod.mk.inj hrun).1 (by simp)
  · rintro ⟨hnone, rfl⟩
    refine ⟨Unit, shelf.alwaysPicking 0, (), (), rfl, ?_⟩
    have hshelf : (shelf.alwaysPicking 0).shelf = shelf := rfl
    rw [Planner.anyTemplate, hshelf, hnone]
    rfl

/-! ### The template of an id -/

/-- Where ids are distinct, the template of an id is found. -/
theorem byId?_eq_some_iff {id : String} (hids : (shelf.records.map (·.id)).Nodup) :
    shelf.byId? id = some template ↔ template ∈ shelf.records ∧ template.id = id := by
  constructor
  · exact mem_records_of_byId?
  · rintro ⟨hmem, rfl⟩
    cases hfound : shelf.byId? template.id with
    | none => exact absurd rfl (byId?_eq_none_iff.mp hfound template hmem)
    | some found =>
      -- what is found has the same id, so it is the template itself
      obtain ⟨hserved, hid⟩ := mem_records_of_byId? hfound
      rw [List.inj_on_of_nodup_map hids hserved hmem hid]

end Shelf

/-! ### What a repository serves -/

/-- The templates that a repository serves have ids of their own. -/
theorem LessonTemplate.nodup_ids_contents (limit : Nat) (source : Source) :
    ((templateRepository limit source).contents.records.map (·.id)).Nodup := by
  -- a template is kept only if its id is new, so the ids are distinct as they come
  have hids : (templateRepository limit source).contents.records.Pairwise
      fun earlier template => earlier.id ≠ template.id :=
    pairwise_contents fun _ _ _ hjudge => (judge_eq_ok_iff.mp hjudge).2
  exact List.pairwise_map.mpr hids

/-- **Selection agrees with the templates.** Of what a repository serves from any source, the
    built-in template included, the candidates for lessons of a kind and level are the templates of
    that kind that cover the level, each once and in the order of the load.  Each of them may be
    given for such a lesson, and nothing else; if there is none, and only then, that is the fault.
    No two templates share an id, and under an id the one template that has it is found, or nothing
    where none has it. -/
theorem selection_agrees_with_the_records (limit : Nat) (source : Source) :
    let shelf : Shelf := (templateRepository limit source).contents
    (∀ kind level,
      let candidates := shelf.records.filter fun template =>
        template.kind = kind ∧ template.covers level
      shelf.candidates kind level = candidates ∧ candidates.Nodup ∧
      (∀ template, shelf.Gives kind level (.ok template) ↔ template ∈ candidates) ∧
      ∀ fault, shelf.Gives kind level (.error fault) ↔
        candidates = [] ∧ fault = .lesson (.noTemplate kind level)) ∧
    (shelf.records.map (·.id)).Nodup ∧
    ∀ id,
      (∀ template, shelf.byId? id = some template ↔ template ∈ shelf.records ∧ template.id = id) ∧
      (shelf.byId? id = none ↔ ∀ template ∈ shelf.records, template.id ≠ id) := by
  intro shelf
  have hids : (shelf.records.map (·.id)).Nodup := LessonTemplate.nodup_ids_contents limit source
  refine ⟨?_, hids, ?_⟩
  · intro kind level candidates
    have hcandidates : shelf.candidates kind level = candidates :=
      Shelf.candidates_eq shelf kind level
    refine ⟨hcandidates, (hids.of_map _).filter _, ?_, ?_⟩
    · intro template
      rw [Shelf.gives_ok_iff, hcandidates]
    · intro fault
      rw [Shelf.gives_error_iff, hcandidates]
  · exact fun id => ⟨fun template => Shelf.byId?_eq_some_iff hids, Shelf.byId?_eq_none_iff⟩

end BilingualLessons
