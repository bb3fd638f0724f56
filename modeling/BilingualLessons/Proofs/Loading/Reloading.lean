import BilingualLessons.Proofs.Grammar.Served
import BilingualLessons.Proofs.LessonTemplate.Fallback
import BilingualLessons.Proofs.Record.Concepts
import BilingualLessons.Proofs.Record.Templates

namespace BilingualLessons

/-!
# Served records loaded again

What a repository serves can be written out and loaded by another one, which then serves the same.
Three things make this so: each record is read back from what it is written as, each passes the
check again, and no two of them stand in each other's way.

* `Loading.verdicts_encode` — records that are judged as they come are accepted, every one.
* `Loading.pairwise_contents` — what the judge asks for between two records holds between all that
  are served, by a source of any kind.
* `Loading.contents_of_encoded` — what a repository over written records serves and reports.
* `reloading_is_lossless` — for templates and concepts of any source.
-/

namespace Loading

variable {α : Type} {judge : Judge α} {encode : α → Json} {R : α → α → Prop}

/-! ### Records that are accepted one and all -/

/-- Records that the judge accepts, each behind those that stand before it, are accepted one and
    all, from a place on with `kept` accepted before it. -/
theorem verdicts_encode {as kept : List α}
    (hjudge : ∀ a ∈ as, ∀ before origin, (∀ earlier ∈ before, R earlier a) →
      judge before ⟨origin, encode a⟩ = .ok a)
    (hpairs : (kept ++ as).Pairwise R) (origin : Nat → String) (start : Nat) :
    verdicts judge kept (((as.map encode).zipIdx start).map fun (v, i) => ⟨origin i, v⟩)
      = as.map .ok := by
  -- what has been accepted grows by each record, which is still held against all before it
  induction as generalizing kept start with
  | nil => rfl
  | cons a as ih =>
    rw [List.forall_mem_cons] at hjudge
    have hbefore : ∀ earlier ∈ kept, R earlier a := fun earlier hearlier =>
      (List.pairwise_append.mp hpairs).2.2 earlier hearlier a List.mem_cons_self
    have hfirst : judge kept ⟨origin start, encode a⟩ = .ok a := hjudge.1 kept _ hbefore
    have hrest := ih hjudge.2 (by rwa [← List.append_cons]) (start + 1)
    rw [List.map_cons, List.zipIdx_cons, List.map_cons, verdicts, hfirst, List.map_cons]
    exact congrArg _ hrest

theorem accepted_map_ok (as : List α) : accepted (as.map .ok) = as := by
  induction as with
  | nil => rfl
  | cons a as ih => rw [List.map_cons, accepted_ok, ih]

theorem refusals_map_ok (origins : List String) (as : List α) :
    refusals origins (as.map .ok) = [] := by
  refine List.filterMap_eq_nil_iff.mpr fun (origin, verdict) h => ?_
  obtain ⟨a, -, rfl⟩ := List.mem_map.mp (List.of_mem_zip h).2
  rfl

/-! ### What any repository serves -/

variable {repository : Repository α}

/-- There is always something to serve. -/
theorem records_ne_nil (repository : Repository α) : repository.contents.records ≠ [] := by
  unfold Repository.contents
  cases repository.source.fetch with
  | error fault => exact List.cons_ne_nil _ _
  | ok batch =>
    simp only [Contents.ofBatch]
    split
    · exact List.cons_ne_nil _ _
    · next hsome => exact fun hnil => hsome (by rw [hnil]; rfl)

/-- A relation that the judge asks for between a record and those accepted before it holds between
    all that are served. -/
theorem pairwise_contents
    (hjudge : ∀ kept record a, repository.judge kept record = .ok a →
      ∀ earlier ∈ kept, R earlier a) :
    repository.contents.records.Pairwise R := by
  unfold Repository.contents
  -- the built-in record is alone, so there is no pair to look at
  cases repository.source.fetch with
  | error fault => exact List.pairwise_singleton R _
  | ok batch =>
    simp only [Contents.ofBatch, sift_eq]
    split
    · exact List.pairwise_singleton R _
    · exact pairwise_accepted hjudge List.Pairwise.nil batch.records

/-- **Written records.** A repository over records that its judge accepts as they come, if there is
    one at all, serves them in the same order and has nothing to report. -/
theorem contents_of_encoded {name : String} {as : List α} (hsome : as ≠ [])
    (hsource : repository.source = .records name (as.map encode)) (hpairs : as.Pairwise R)
    (hjudge : ∀ a ∈ as, ∀ before origin, (∀ earlier ∈ before, R earlier a) →
      repository.judge before ⟨origin, encode a⟩ = .ok a) :
    repository.contents.records = as ∧ repository.contents.report.faults = [] ∧
      repository.contents.report.usedFallback = false ∧
      repository.contents.report.isSuccess = true := by
  have hall : ([] ++ as).Pairwise R := hpairs
  have hverdicts : verdicts repository.judge [] (recordsAtHand name (as.map encode))
      = as.map .ok := verdicts_encode hjudge hall (originAt name) 0
  have hempty : as.isEmpty = false := by simpa using hsome
  rw [contents_of_records repository hsource, hverdicts, accepted_map_ok, refusals_map_ok]
  simp [hempty, Report.isSuccess]

end Loading

open Loading

/-! ### Templates and concepts -/

/-- The built-in template has a record. -/
theorem LessonTemplate.hasRecord_fallback : fallback.HasRecord := by
  unfold HasRecord Variable.HasRecord
  decide

/-- What a repository of templates serves has a record and keeps all rules, if blocks are allowed
    at all. -/
theorem LessonTemplate.hasRecord_of_mem_contents {limit : Nat} (hlimit : 0 < limit)
    {source : Source} {template : LessonTemplate}
    (h : template ∈ (templateRepository limit source).contents.records) :
    template.HasRecord ∧ template.validate limit = .ok () := by
  rcases judge_of_mem_contents h with ⟨kept, record, hjudge⟩ | ⟨-, rfl⟩
  · obtain ⟨hrecord, -⟩ := judge_eq_ok_iff.mp hjudge
    obtain ⟨hdecode, hvalid⟩ := ofRecord_eq_ok_iff.mp hrecord
    exact ⟨hasRecord_of_decode _ _ hdecode, hvalid⟩
  · exact ⟨hasRecord_fallback, validate_fallback_iff.mpr hlimit⟩

/-- **Reloading.** The templates of any source, the built-in one included, are served again by a
    repository over their records, in the same order and without a fault; and so are the
    concepts. -/
theorem reloading_is_lossless (source : Source) (name : String) :
    (let served := (templateRepository Template.defaultNesting source).contents.records
      let again := (templateRepository Template.defaultNesting
        (.records name (served.map LessonTemplate.encode))).contents
      again.records = served ∧ again.report.faults = [] ∧ again.report.usedFallback = false ∧
        again.report.isSuccess = true) ∧
    (let served := (Grammar.conceptRepository source).contents.records
      let again := (Grammar.conceptRepository
        (.records name (served.map Grammar.Concept.encode))).contents
      again.records = served ∧ again.report.faults = [] ∧ again.report.usedFallback = false ∧
        again.report.isSuccess = true) := by
  constructor
  · have hids : (templateRepository Template.defaultNesting source).contents.records.Pairwise
        fun earlier template => earlier.id ≠ template.id :=
      pairwise_contents fun _ _ _ hjudge => (LessonTemplate.judge_eq_ok_iff.mp hjudge).2
    refine contents_of_encoded (records_ne_nil _) rfl hids ?_
    intro template hserved before origin hnew
    obtain ⟨hrecord, hvalid⟩ := LessonTemplate.hasRecord_of_mem_contents (by decide) hserved
    refine LessonTemplate.judge_eq_ok_iff.mpr ⟨?_, hnew⟩
    exact LessonTemplate.ofRecord_eq_ok_iff.mpr ⟨LessonTemplate.decode_encode hrecord, hvalid⟩
  · -- concepts may share their ids, so nothing is asked for between two of them
    have hnone : (Grammar.conceptRepository source).contents.records.Pairwise fun _ _ => True :=
      List.pairwise_of_forall fun _ _ => trivial
    refine contents_of_encoded (records_ne_nil _) rfl hnone ?_
    intro concept hserved before origin _
    exact Grammar.Concept.ofRecord_eq_ok_iff.mpr
      ⟨concept.decode_encode, Grammar.Concept.validate_of_mem_contents hserved⟩

end BilingualLessons
