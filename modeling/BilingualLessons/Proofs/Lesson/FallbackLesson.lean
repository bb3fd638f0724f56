import BilingualLessons.Proofs.Lesson.BestEffort
import BilingualLessons.Proofs.LessonTemplate.Fallback
import BilingualLessons.Proofs.Loading.Acceptance

namespace BilingualLessons.Lesson

/-!
# Lessons from the built-in template

Where no record is a template, the built-in one serves for every section of a lesson of words.  It
renders the introduction; the other sections have no number of words for it.

* `template_yields_fallback` — the built-in template for every section.
* `introduction_from_fallback`, `tryAll_from_fallback` — what comes of the attempts.
* `lesson_from_fallback` — what comes of a request.
-/

open Vocabulary LessonTemplate

variable {σ : Type}

/-! ### What a section knows -/

/-- The added values count, and then what every section knows. -/
theorem get?_extend (context : Template.Context) (added : Fields) (key : String) :
    Fields.get? key (context.extend added).values
      = (Fields.get? key added.reverse).or (Fields.get? key context.values) :=
  Fields.get?_insertAll key context.values added

theorem get?_sectionTitle (request : Request) (title : String) :
    Fields.get? "sectionTitle" (request.sectionContext title).values = some (.string title) := by
  simp [Request.sectionContext, Template.Context.set, Fields.get?_insert]

/-- No section knows the number of words unless it is told. -/
theorem get?_count (request : Request) (title : String) :
    Fields.get? "count" (request.sectionContext title).values = none := by
  simp [Request.sectionContext, Template.Context.set, Template.Context.ofList, Fields.ofList,
    Fields.get?_insert, Fields.get?_insertAll, Direction.entries, Fields.get?_cons]

/-- The fault of a section that has no number of words for the built-in template. -/
def missingCount : PlanFault := .rendering (.data (.missingVariable fallbackId "count"))

/-- The introduction that the built-in template makes. -/
def fallbackIntroduction (theme : String) (items : List Item) : Section where
  title := "Vocabulary: " ++ theme
  content := "# Vocabulary: " ++ theme ++ "\n\nThis lesson contains " ++ toString items.length ++
    " vocabulary items.\n\n" ++
    String.join (items.map fun item => "\n- " ++ item.german ++ " / " ++ item.bulgarian ++ "\n")
  kind := .introduction
  metadata := [("templateId", .string fallbackId)]

namespace Planner

/-! ### The attempts -/

section

variable {planner : Planner σ} (hrecords : planner.shelf.records = [fallback])
include hrecords

/-- The built-in template serves for every section that asks for another one. -/
theorem template_yields_fallback {id : String} (hid : id ≠ fallbackId) (request : Request) :
    (planner.template id .vocabulary request).Yields (· = fallback) := by
  have hmissing : planner.shelf.byId? id = none := by
    rw [Shelf.byId?_eq_none_iff, hrecords]
    simp [fallback, Ne.symm hid]
  have hcandidates : planner.shelf.candidates .vocabulary request.level = [fallback] := by
    rw [Shelf.candidates_eq, hrecords]
    cases request.level <;> rfl
  exact template_yields_of_candidates hmissing hcandidates

/-- The introduction renders, whatever the words are. -/
theorem introduction_from_fallback (hnesting : 0 < planner.nesting) (request : Request)
    (items : List Item) (theme : String) (objectives : List String) :
    (planner.vocabularyIntroduction request items theme objectives).Always
      (.ok (fallbackIntroduction theme items)) := by
  refine (template_yields_fallback hrecords (by decide) request).bind_always ?_
  rintro _ rfl s
  refine ⟨s, ?_⟩
  dsimp only
  -- the body reads three keys of the context, and what else is in it does not matter
  generalize hcontext : Template.Context.extend _ _ = context
  have htitle : Fields.get? "sectionTitle" context.values
      = some (.string ("Vocabulary: " ++ theme)) := by
    rw [← hcontext, get?_extend, get?_sectionTitle]
    rfl
  have hcount : Fields.get? "count" context.values = some (.ofNat items.length) := by
    rw [← hcontext, get?_extend]
    rfl
  have hwords : Fields.get? "vocabulary" context.values
      = some (.array (items.map Item.annotated)) := by
    rw [← hcontext, get?_extend]
    rfl
  have hheading : "# " ++ ("Vocabulary: " ++ theme) = "# Vocabulary: " ++ theme := by
    rw [← String.append_assoc]
    rfl
  rw [renderSection_runFrom, render_fallback htitle hnesting hcount hwords, hheading]
  rfl

omit hrecords in
/-- Rendering without a number of words fails, whatever else is told. -/
theorem rendering_without_count (request : Request) {contextTitle title : String} {added : Fields}
    {kind : SectionKind} (htitle : Fields.get? "sectionTitle" added.reverse = none)
    (hcount : Fields.get? "count" added.reverse = none) :
    (planner.renderSection fallback ((request.sectionContext contextTitle).extend added) title
      kind).Always (.error missingCount) := by
  intro s
  refine ⟨s, ?_⟩
  have htitle' : Fields.get? "sectionTitle"
      ((request.sectionContext contextTitle).extend added).values
        = some (.string contextTitle) := by
    rw [get?_extend, htitle, get?_sectionTitle, Option.none_or]
  have hcount' : Fields.get? "count"
      ((request.sectionContext contextTitle).extend added).values = none := by
    rw [get?_extend, hcount, get?_count, Option.none_or]
  rw [renderSection_runFrom, render_fallback_without_count htitle' planner.nesting hcount']
  rfl

theorem practice_from_fallback (request : Request) (items : List Item) :
    (planner.vocabularyPractice request items).Always (.error missingCount) := by
  refine (template_yields_fallback hrecords (by decide) request).bind_always ?_
  rintro _ rfl
  exact rendering_without_count request rfl rfl

theorem review_from_fallback {store : Store} {draw : Nat → List Item → StateM σ (List Item)}
    (hstore : planner.provider = store.provider draw) (request : Request) :
    (planner.vocabularyReview request).Always (.error missingCount) := by
  refine (template_yields_fallback hrecords (by decide) request).bind_always ?_
  rintro _ rfl
  have hsample : (ask (planner.provider.sample planner.settings.reviewSampleSize
      (gradeFilter request.level none))).Yields fun _ => True :=
    fun s => ⟨_, _, ask_sample hstore _ _ s, trivial⟩
  exact hsample.bind_always fun items _ => rendering_without_count request rfl rfl

/-- After the introduction every attempt fails. -/
theorem attempts_from_fallback {store : Store} {draw : Nat → List Item → StateM σ (List Item)}
    (hstore : planner.provider = store.provider draw) {request : Request}
    (hkind : request.kind = .vocabulary) (items : List Item) :
    let theme := theme request.criteria.categories
    ∃ others : List (Attempt σ),
      planner.attempts request items
        = ⟨"introduction", planner.vocabularyIntroduction request items theme
            (thematicObjectives items.length theme)⟩ :: others ∧
      ∀ attempt ∈ others, attempt.make.Always (.error missingCount) := by
  intro theme
  refine ⟨_, by rw [attempts, hkind]; rfl, fun attempt hattempt => ?_⟩
  -- the switches decide which attempts there are, but each of them fails
  rcases List.mem_append.mp hattempt with hpractice | hreview
  · split at hpractice
    · obtain rfl := List.mem_singleton.mp hpractice
      exact practice_from_fallback hrecords request items
    · exact absurd hpractice List.not_mem_nil
  · split at hreview
    · obtain rfl := List.mem_singleton.mp hreview
      exact review_from_fallback hrecords hstore request
    · exact absurd hreview List.not_mem_nil

/-- What came of all attempts: the introduction, and one fault for the others. -/
theorem tryAll_from_fallback (hnesting : 0 < planner.nesting) {store : Store}
    {draw : Nat → List Item → StateM σ (List Item)}
    (hstore : planner.provider = store.provider draw) {request : Request}
    (hkind : request.kind = .vocabulary) (items : List Item) (s : σ) :
    ∃ s', (tryAll (planner.attempts request items)).run s
      = (⟨"introduction", .ok (fallbackIntroduction (theme request.criteria.categories) items)⟩ ::
          (planner.attemptedNames request items).tail.map fun name => ⟨name, .error missingCount⟩,
        s') := by
  obtain ⟨others, hattempts, hothers⟩ := attempts_from_fallback hrecords hstore hkind items
  have hnames : (planner.attemptedNames request items).tail = others.map (·.name) := by
    rw [← map_name_attempts, hattempts]
    rfl
  obtain ⟨s₁, hintroduction⟩ := introduction_from_fallback hrecords hnesting request items
    (theme request.criteria.categories)
    (thematicObjectives items.length (theme request.criteria.categories)) s
  -- the review may draw words and so change the state, but not what comes of it
  obtain ⟨s₂, hfailures⟩ := tryAll_of_always hothers s₁
  refine ⟨s₂, ?_⟩
  rw [hattempts, tryAll_cons_run, hintroduction, hnames, List.map_map]
  simp only [hfailures]
  rfl

end

/-! ### The lesson -/

/-- **A lesson without templates.** Where no record is a template, a request for words still has a
    lesson, over every store in memory and whatever is drawn from it: the built-in template renders
    the introduction, which shows every word as it is, and the other sections that the request is
    due are left out for the number that they lack. -/
theorem lesson_from_fallback {limit : Nat} {name : String} {values : List Json}
    (hinvalid : ∀ v ∈ values, ∀ template, LessonTemplate.decode v = .ok template →
      template.validate limit ≠ .ok ())
    (planner : Planner σ)
    (hshelf : planner.shelf = (templateRepository limit (.records name values)).contents)
    (hnesting : 0 < planner.nesting) {store : Store}
    {draw : Nat → List Item → StateM σ (List Item)}
    (hstore : planner.provider = store.provider draw) (request : Request)
    (hkind : request.kind = .vocabulary) (options : Options) (s : σ) :
    ∃ lesson s₁ s₂,
      (planner.chooseWords request options).runFrom s = (.ok lesson.vocabulary, s₁) ∧
      (planner.lesson request options).run s = (.ok lesson, s₂) ∧
      lesson.sections = [{
        title := "Vocabulary: " ++ theme request.criteria.categories
        content := "# Vocabulary: " ++ theme request.criteria.categories ++
          "\n\nThis lesson contains " ++ toString lesson.vocabulary.length ++
          " vocabulary items.\n\n" ++
          String.join (lesson.vocabulary.map fun item =>
            "\n- " ++ item.german ++ " / " ++ item.bulgarian ++ "\n")
        kind := .introduction
        metadata := [("templateId", .string "fallback_template")] }] ∧
      lesson.skipped = (planner.attemptedNames request lesson.vocabulary).tail.map fun name =>
        ⟨name, "missing required variable 'count' for template 'fallback_template'"⟩ := by
  have hrecords : planner.shelf.records = [fallback] := by
    rw [hshelf]
    exact records_eq_fallback hinvalid
  -- a store in memory never fails, so there are words to begin with
  obtain ⟨items, s₁, hwords, _⟩ := chooseWords_yields hstore request options s
  have hwords' : (planner.words request options).runFrom s = (.ok items, s₁) := by
    rw [words, hkind]
    exact hwords
  obtain ⟨s₂, htrials⟩ := tryAll_from_fallback hrecords hnesting hstore hkind items s₁
  obtain ⟨hnone, hreasons⟩ :=
    parts_of_failures (planner.attemptedNames request items).tail missingCount
  have hlesson := lesson_of_rendered (.inl hkind) hwords' htrials (by simp)
  rw [rendered_ok, leftOut_ok, hnone, hreasons] at hlesson
  obtain ⟨hsections, hskipped, hvocabulary⟩ := assembled_parts planner request items _
  refine ⟨_, s₁, s₂, ?_, hlesson, ?_, ?_⟩
  · rw [hvocabulary]
    exact hwords
  · rw [hsections, hvocabulary]
    rfl
  · rw [hskipped, hvocabulary]
    rfl

/-- A record that is no template, and a word that looks like a tag: it is shown as it is. -/
theorem lesson_from_fallback_of_a_tag :
    let values : List Json := [.object [("id", .string "intro")]]
    let store : Store := ⟨[⟨"tag", "\x7b\x7bgerman\x7d\x7d", "къща", "noun", 1, [], none, []⟩]⟩
    let planner : Planner Unit := {
      shelf := (templateRepository 20 (.records "templates" values)).contents
      catalogue := (Grammar.conceptRepository (.records "grammar" [])).contents
      provider := store.provider drawFirst
      pick := fun _ => return 0 }
    let request : Request := { level := .a1, metadata := [("includeReview", .bool true)] }
    (∀ v ∈ values, ∀ template, LessonTemplate.decode v = .ok template →
      template.validate 20 ≠ .ok ()) ∧
    0 < planner.nesting ∧ planner.provider = store.provider drawFirst ∧
    request.kind = .vocabulary ∧
    ∃ lesson, (planner.lesson request {}).run () = (.ok lesson, ()) ∧
      lesson.sections.map (·.content) = ["# Vocabulary: General\n\nThis lesson contains 1 " ++
        "vocabulary items.\n\n\n- \x7b\x7bgerman\x7d\x7d / къща\n"] ∧
      lesson.skipped.map (·.name) = ["practice", "review"] := by
  intro values store planner request
  have hinvalid : ∀ v ∈ values, ∀ template, LessonTemplate.decode v = .ok template →
      template.validate 20 ≠ .ok () := by
    intro v hv template hdecode
    have hnone : (LessonTemplate.decode v).toOption = none := by
      rw [List.mem_singleton.mp hv]
      decide +kernel
    exact absurd hnone (by simp [hdecode, Except.toOption])
  have hnesting : 0 < planner.nesting := by decide
  have hstore : planner.provider = store.provider drawFirst := rfl
  have hkind : request.kind = .vocabulary := rfl
  refine ⟨hinvalid, hnesting, hstore, hkind, ?_⟩
  obtain ⟨lesson, ⟨⟩, ⟨⟩, hwords, hrun, hsections, hskipped⟩ :=
    lesson_from_fallback hinvalid planner rfl hnesting hstore request hkind {} ()
  have hvocabulary : lesson.vocabulary = store.items := by
    have hone : (planner.chooseWords request {}).runFrom () = (.ok store.items, ()) := by
      decide +kernel
    exact Except.ok.inj (Prod.mk.inj (hwords.symm.trans hone)).1
  refine ⟨lesson, hrun, ?_, ?_⟩
  · rw [hsections, hvocabulary]
    decide +kernel
  · rw [hskipped, hvocabulary]
    decide +kernel

end Planner

end BilingualLessons.Lesson
