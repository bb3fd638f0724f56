import BilingualLessons.Lesson.Generation
import BilingualLessons.Proofs.Lesson.Attempts
import BilingualLessons.Proofs.LessonTemplate.Index

namespace BilingualLessons.Lesson

/-!
# Lessons that keep what renders

Lessons of words and lessons of grammar attempt several sections and keep those that render.

* `Planner.words`, `Planner.attempts`, `Planner.assembled` — the three parts that both ways of
  putting a lesson together have; `plan_eq` — they are these parts.
* `Planner.attemptedNames` — the names of the sections that are attempted.
* `Planner.lesson_keeps_what_renders` — what comes of a request, from what came of its attempts.
* `Planner.exists_lesson_of_reading` — a lesson from what is read off it.
-/

open Vocabulary

variable {σ : Type}

/-! ### Switches -/

/-- A switch says something if the metadata have a truth value under its key. -/
theorem Request.switch?_eq_some_iff {request : Request} {key : String} {on : Bool} :
    request.switch? key = some on ↔ request.metadata.get? key = some (.bool on) := by
  rw [Request.switch?, Option.bind_eq_some_iff]
  constructor
  · rintro ⟨v, hv, hbool⟩
    cases v <;> simp_all [Json.asBool?]
  · intro h
    exact ⟨.bool on, h, rfl⟩

namespace Planner

/-! ### The parts of a lesson -/

/-- The words of a lesson. -/
def words (planner : Planner σ) (request : Request) (options : Options) :
    Planning σ (List Item) :=
  match request.kind with
  | .grammar => planner.exampleWords request (planner.mainConcept? request)
  | _ => planner.chooseWords request options

/-- The sections that a lesson with these words attempts. -/
def attempts (planner : Planner σ) (request : Request) (items : List Item) :
    List (Attempt σ) :=
  match request.kind with
  | .grammar => planner.grammarAttempts request (planner.mainConcept? request) items
  | _ =>
    let theme := theme request.criteria.categories
    planner.thematicAttempts request items theme (thematicObjectives items.length theme)

/-- The lesson with these words and sections. -/
def assembled (planner : Planner σ) (request : Request) (items : List Item) (outcome : Outcome) :
    Lesson :=
  let draft : Draft := match request.kind with
    | .grammar =>
      let concept? := planner.mainConcept? request
      { title := grammarTitle concept?, outcome, vocabulary := items
        concepts := concept?.toList, objectives := grammarObjectives concept? }
    | _ =>
      { title := thematicTitle request.criteria.categories, outcome, vocabulary := items
        objectives := thematicObjectives items.length (theme request.criteria.categories) }
  draft.lesson request

/-- A lesson of words or of grammar is put together from these parts. -/
theorem plan_eq (planner : Planner σ) {request : Request}
    (hkind : request.kind = .vocabulary ∨ request.kind = .grammar) (options : Options) :
    planner.plan (.ofKind request.kind) request options = (do
      let items ← planner.words request options
      let outcome ← requireSection request.kind (planner.attempts request items)
      return planner.assembled request items outcome) := by
  unfold words attempts assembled
  rcases hkind with hkind | hkind <;> rw [hkind] <;> simp only [Strategy.ofKind, plan]
  · simp only [thematicLesson, hkind]
  · simp only [grammarLesson, hkind]

/-- The lesson of a request is that of its plan, with the fault of the request. -/
theorem lesson_run (planner : Planner σ) (request : Request) (options : Options) (s : σ) :
    (planner.lesson request options).run s =
      let (result, s') := (planner.plan (.ofKind request.kind) request options).runFrom s
      (result.mapError PlanFault.toFault, s') := rfl

theorem assembled_parts (planner : Planner σ) (request : Request) (items : List Item)
    (outcome : Outcome) :
    (planner.assembled request items outcome).sections = outcome.sections ∧
    (planner.assembled request items outcome).skipped = outcome.skipped ∧
    (planner.assembled request items outcome).vocabulary = items := by
  unfold assembled Draft.lesson
  split <;> exact ⟨rfl, rfl, rfl⟩

/-- Over a store in memory there are words for every request. -/
theorem words_yields {planner : Planner σ} {store : Store}
    {draw : Nat → List Item → StateM σ (List Item)}
    (hstore : planner.provider = store.provider draw) (request : Request) (options : Options) :
    (planner.words request options).Yields fun _ => True := by
  intro s
  unfold words
  split
  · rw [exampleWords]
    split
    · rw [runFrom_bind_of_ok (ask_search hstore _ s)]
      exact ⟨_, s, runFrom_pure _ s, trivial⟩
    · exact ⟨_, _, ask_sample hstore _ _ s, trivial⟩
  · obtain ⟨items, s', hrun, _⟩ := chooseWords_yields hstore request options s
    exact ⟨items, s', hrun, trivial⟩

/-! ### The names of the attempts -/

/-- The names of the sections that a lesson with these words attempts, in order. -/
def attemptedNames (planner : Planner σ) (request : Request) (items : List Item) : List String :=
  match request.kind with
  | .grammar =>
    "explanation" :: match planner.mainConcept? request with
      | none => []
      | some _ =>
        (if request.metadata.get? "includePractice" = some (.bool false) then []
          else ["practice"]) ++
        (if request.metadata.get? "includeComparison" = some (.bool false) ∨
            ∀ template ∈ planner.shelf.records, template.id ≠ "grammar-comparison" then []
          else ["comparison"])
  | _ =>
    "introduction" ::
      (if request.metadata.get? "includePractice" = some (.bool false) ∨ items = [] then []
        else ["practice"]) ++
      (if request.metadata.get? "includeReview" = some (.bool true) then ["review"] else [])

theorem map_name_thematicAttempts (planner : Planner σ) (request : Request) (items : List Item)
    (theme : String) (objectives : List String) :
    (planner.thematicAttempts request items theme objectives).map (·.name) =
      "introduction" ::
        (if request.metadata.get? "includePractice" = some (.bool false) ∨ items = [] then []
          else ["practice"]) ++
        (if request.metadata.get? "includeReview" = some (.bool true) then ["review"] else []) := by
  have hpractice : request.switch? practiceSwitch = some false ↔
      request.metadata.get? "includePractice" = some (.bool false) :=
    Request.switch?_eq_some_iff
  have hreview : request.switch? reviewSwitch = some true ↔
      request.metadata.get? "includeReview" = some (.bool true) :=
    Request.switch?_eq_some_iff
  rw [thematicAttempts]
  simp only [ne_eq, hpractice, hreview]
  by_cases hoff : request.metadata.get? "includePractice" = some (.bool false) <;>
    by_cases hitems : items = [] <;>
    by_cases hon : request.metadata.get? "includeReview" = some (.bool true) <;>
    simp [hoff, hitems, hon]

/-- The comparison is attempted if there is a template of its own. -/
theorem map_name_comparisonAttempts (planner : Planner σ) (request : Request)
    (concept : Grammar.Concept) :
    (planner.comparisonAttempts request concept).map (·.name) =
      if ∀ template ∈ planner.shelf.records, template.id ≠ "grammar-comparison" then []
      else ["comparison"] := by
  rw [comparisonAttempts]
  cases hfind : planner.shelf.byId? "grammar-comparison" with
  | none =>
    rw [if_pos (Shelf.byId?_eq_none_iff.mp hfind)]
    rfl
  | some template =>
    obtain ⟨hmem, hid⟩ := Shelf.mem_records_of_byId? hfind
    rw [if_neg fun hmissing => hmissing template hmem hid]
    rfl

theorem map_name_grammarAttempts (planner : Planner σ) (request : Request)
    (concept? : Option Grammar.Concept) (items : List Item) :
    (planner.grammarAttempts request concept? items).map (·.name) =
      "explanation" :: match concept? with
        | none => []
        | some _ =>
          (if request.metadata.get? "includePractice" = some (.bool false) then []
            else ["practice"]) ++
          (if request.metadata.get? "includeComparison" = some (.bool false) ∨
              ∀ template ∈ planner.shelf.records, template.id ≠ "grammar-comparison" then []
            else ["comparison"]) := by
  cases concept? with
  | none => rfl
  | some concept =>
    have hpractice : request.switch? practiceSwitch = some false ↔
        request.metadata.get? "includePractice" = some (.bool false) :=
      Request.switch?_eq_some_iff
    have hcomparison : request.switch? comparisonSwitch = some false ↔
        request.metadata.get? "includeComparison" = some (.bool false) :=
      Request.switch?_eq_some_iff
    simp only [grammarAttempts, hpractice, hcomparison, List.map_cons, List.map_append,
      apply_ite (List.map Attempt.name), map_name_comparisonAttempts, List.map_nil]
    by_cases hoff : request.metadata.get? "includeComparison" = some (.bool false) <;> simp [hoff]

theorem map_name_attempts (planner : Planner σ) (request : Request) (items : List Item) :
    (planner.attempts request items).map (·.name) = planner.attemptedNames request items := by
  unfold attempts attemptedNames
  split
  · exact map_name_grammarAttempts planner request _ items
  · exact map_name_thematicAttempts planner request items _ _

/-! ### What comes of a request -/

section

variable {planner : Planner σ} {request : Request} {options : Options} {items : List Item}
  {trials : List Trial} {s s₁ s₂ : σ}
  (hkind : request.kind = .vocabulary ∨ request.kind = .grammar)
  (hwords : (planner.words request options).runFrom s = (.ok items, s₁))
  (htrials : (tryAll (planner.attempts request items)).run s₁ = (trials, s₂))
include hkind hwords htrials

/-- One section is enough for a lesson. -/
theorem lesson_of_rendered (h : rendered trials ≠ []) :
    (planner.lesson request options).run s
      = (.ok (planner.assembled request items ⟨rendered trials, leftOut trials⟩), s₂) := by
  have hplan : (planner.plan (.ofKind request.kind) request options).runFrom s
      = (.ok (planner.assembled request items ⟨rendered trials, leftOut trials⟩), s₂) := by
    rw [plan_eq planner hkind, runFrom_bind_of_ok hwords,
      runFrom_bind_of_ok (requireSection_of_rendered htrials h)]
    rfl
  rw [lesson_run, hplan]
  rfl

/-- Without a section there is no lesson. -/
theorem lesson_of_none (h : rendered trials = []) :
    (planner.lesson request options).run s
      = (.error (.noSections request.kind (leftOut trials)), s₂) := by
  have hplan : (planner.plan (.ofKind request.kind) request options).runFrom s
      = (.error (.lesson (.noSections request.kind (leftOut trials))), s₂) := by
    rw [plan_eq planner hkind, runFrom_bind_of_ok hwords, runFrom_bind,
      requireSection_of_none htrials h]
  rw [lesson_run, hplan]
  rfl

end

/-- **Lessons keep what renders.** Over a store in memory, a lesson of words or of grammar finds
    its words and tries the sections that its request is due, each from the state that those
    before it leave. If some section rendered, the lesson has exactly those that did, in order, and
    reports the others, in order. If none did, there is no lesson, and the fault tells the reason
    of each. -/
theorem lesson_keeps_what_renders (planner : Planner σ) {store : Store}
    {draw : Nat → List Item → StateM σ (List Item)}
    (hstore : planner.provider = store.provider draw) (request : Request)
    (hkind : request.kind = .vocabulary ∨ request.kind = .grammar) (options : Options) (s : σ) :
    ∃ items s₁ trials s₂,
      (planner.words request options).runFrom s = (.ok items, s₁) ∧
      (tryAll (planner.attempts request items)).run s₁ = (trials, s₂) ∧
      trials.map (·.name) = planner.attemptedNames request items ∧
      ((∃ trial ∈ trials, ∃ part, trial.result = .ok part) →
        ∃ lesson, (planner.lesson request options).run s = (.ok lesson, s₂) ∧
          lesson.vocabulary = items ∧ lesson.sections = rendered trials ∧
          lesson.skipped = leftOut trials ∧
          lesson.sections.length + lesson.skipped.length
            = (planner.attemptedNames request items).length) ∧
      ((∀ trial ∈ trials, ∃ fault, trial.result = .error fault) →
        ∃ faults : List PlanFault,
          trials.map (·.result) = faults.map .error ∧
          (planner.lesson request options).run s
            = (.error (.noSections request.kind (leftOut trials)), s₂) ∧
          (leftOut trials).map SkippedSection.message
            = List.zipWith (fun name fault => name ++ ": " ++ fault.message)
                (planner.attemptedNames request items) faults) := by
  obtain ⟨items, s₁, hwords, _⟩ := words_yields hstore request options s
  rcases htrials : (tryAll (planner.attempts request items)).run s₁ with ⟨trials, s₂⟩
  have hnames : trials.map (·.name) = planner.attemptedNames request items := by
    rw [← map_name_attempts, ← map_name_tryAll _ s₁, htrials]
  refine ⟨items, s₁, trials, s₂, hwords, htrials, hnames, fun hsome => ?_, fun hnone => ?_⟩
  · have hrendered : rendered trials ≠ [] := rendered_ne_nil_iff.mpr hsome
    obtain ⟨hsections, hskipped, hvocabulary⟩ :=
      assembled_parts planner request items ⟨rendered trials, leftOut trials⟩
    refine ⟨_, lesson_of_rendered hkind hwords htrials hrendered, hvocabulary, hsections, hskipped,
      ?_⟩
    rw [hsections, hskipped, ← hnames, List.length_map]
    exact length_rendered_add_leftOut trials
  · have hrendered : rendered trials = [] := rendered_eq_nil_iff.mpr hnone
    obtain ⟨faults, hresults, hleft⟩ := leftOut_of_rendered_eq_nil hrendered
    refine ⟨faults, hresults, lesson_of_none hkind hwords htrials hrendered, ?_⟩
    rw [hleft, hnames, List.map_zipWith]
    rfl

/-- Lessons of one word. Without templates the built-in one serves for the introduction, while
    practice and review have no number of words for it; it serves for no lesson of grammar, and
    there is none. With templates of their own the explanation of a rule and the comparison render,
    while for the practice there is only that of the explanation, and it asks for more than the
    practice has. -/
theorem lesson_keeps_what_renders_of_one_word :
    let store : Store := ⟨[⟨"haus", "Haus", "къща", "noun", 1, [], none, []⟩]⟩
    let explanation : LessonTemplate := {
      id := "grammar-concept", name := "Rule", description := "A rule", kind := .grammar
      lowest := .a1, highest := .c1, declared := []
      body := "\x7b\x7b#each vocabulary\x7d\x7d\x7b\x7bgerman\x7d\x7d: \x7b\x7b/each\x7d\x7d" ++
        "\x7b\x7blearningTip\x7d\x7d" }
    let comparison : LessonTemplate := { explanation with
      id := "grammar-comparison", body := "\x7b\x7bgrammarConcept.name.german\x7d\x7d" }
    let planner : List Json → Planner Unit := fun templates => {
      shelf := (templateRepository 20 (.records "templates" templates)).contents
      catalogue := (Grammar.conceptRepository (.records "grammar" [])).contents
      provider := store.provider drawFirst
      pick := fun _ => return 0 }
    let words : Request := { level := .a1, metadata := [("includeReview", .bool true)] }
    let grammar : Request := { kind? := some .grammar, level := .a1 }
    (∀ templates, (planner templates).provider = store.provider drawFirst) ∧
      (words.kind = .vocabulary ∨ words.kind = .grammar) ∧
      (grammar.kind = .vocabulary ∨ grammar.kind = .grammar) ∧
      (∃ lesson, ((planner []).lesson words {}).run () = (.ok lesson, ()) ∧
        lesson.vocabulary = store.items ∧
        lesson.sections = [{
          title := "Vocabulary: General"
          content := "# Vocabulary: General\n\nThis lesson contains 1 vocabulary items.\n\n\n" ++
            "- Haus / къща\n"
          kind := .introduction
          metadata := [("templateId", .string "fallback_template")] }] ∧
        lesson.skipped.map SkippedSection.message =
          ["practice: missing required variable 'count' for template 'fallback_template'",
            "review: missing required variable 'count' for template 'fallback_template'"]) ∧
      (∃ lesson,
        ((planner [explanation.encode, comparison.encode]).lesson grammar {}).run () =
          (.ok lesson, ()) ∧
        lesson.vocabulary = store.items ∧
        lesson.sections = [{
            title := "Explanation"
            content := "Haus: Focus on understanding the underlying logic rather than just " ++
              "memorizing rules."
            kind := .grammar
            metadata := [("conceptId", .string "fallback-article-usage"),
              ("templateId", .string "grammar-concept")] }, {
            title := "Comparison"
            content := "Artikelgebrauch"
            kind := .cultural
            metadata := [("templateId", .string "grammar-comparison")] }] ∧
        lesson.skipped.map SkippedSection.message =
          ["practice: undefined variable 'learningTip' at line 1"]) ∧
      ∃ skipped,
        ((planner []).lesson grammar {}).run () = (.error (.noSections .grammar skipped), ()) ∧
        skipped.map SkippedSection.message =
          ["explanation: No template found for type grammar and difficulty A1",
            "practice: No template found for type grammar and difficulty A1"] := by
  intro store explanation comparison planner words grammar
  have hstore : ∀ templates, (planner templates).provider = store.provider drawFirst :=
    fun _ => rfl
  have hwordsKind : words.kind = .vocabulary ∨ words.kind = .grammar := .inl rfl
  have hgrammarKind : grammar.kind = .vocabulary ∨ grammar.kind = .grammar := .inr rfl
  let trials := fun (templates : List Json) (request : Request) =>
    ((tryAll ((planner templates).attempts request store.items)).run ()).1
  -- for a request that finds the one word this is what the theorem says
  have hkeeps : ∀ templates request, request.kind = .vocabulary ∨ request.kind = .grammar →
      ((planner templates).words request {}).runFrom () = (.ok store.items, ()) →
      (rendered (trials templates request) ≠ [] →
        ∃ lesson, ((planner templates).lesson request {}).run () = (.ok lesson, ()) ∧
          lesson.vocabulary = store.items ∧ lesson.sections = rendered (trials templates request) ∧
          lesson.skipped = leftOut (trials templates request)) ∧
      (rendered (trials templates request) = [] →
        ((planner templates).lesson request {}).run ()
          = (.error (.noSections request.kind (leftOut (trials templates request))), ())) := by
    intro templates request hkind hone
    obtain ⟨items, ⟨⟩, tried, ⟨⟩, hfound, htried, -, hsome, hnone⟩ :=
      lesson_keeps_what_renders (planner templates) (hstore templates) request hkind {} ()
    obtain rfl : items = store.items :=
      Except.ok.inj (Prod.mk.inj (hfound.symm.trans hone)).1
    have htrials : trials templates request = tried := congrArg Prod.fst htried
    rw [htrials]
    constructor
    · intro h
      obtain ⟨lesson, hrun, hvocabulary, hsections, hskipped, -⟩ := hsome (rendered_ne_nil_iff.mp h)
      exact ⟨lesson, hrun, hvocabulary, hsections, hskipped⟩
    · intro h
      obtain ⟨-, -, hrun, -⟩ := hnone (rendered_eq_nil_iff.mp h)
      exact hrun
  refine ⟨hstore, hwordsKind, hgrammarKind, ?_, ?_, ?_⟩
  · obtain ⟨lesson, hrun, hvocabulary, hsections, hskipped⟩ :=
      (hkeeps [] words hwordsKind (by decide +kernel)).1 (by decide +kernel)
    refine ⟨lesson, hrun, hvocabulary, hsections.trans ?_, ?_⟩
    · decide +kernel
    · rw [hskipped]
      decide +kernel
  · obtain ⟨lesson, hrun, hvocabulary, hsections, hskipped⟩ :=
      (hkeeps [explanation.encode, comparison.encode] grammar hgrammarKind
        (by decide +kernel)).1 (by decide +kernel)
    refine ⟨lesson, hrun, hvocabulary, hsections.trans ?_, ?_⟩
    · decide +kernel
    · rw [hskipped]
      decide +kernel
  · have hrun := (hkeeps [] grammar hgrammarKind (by decide +kernel)).2 (by decide +kernel)
    refine ⟨_, hrun, ?_⟩
    decide +kernel

/-! ### What is read off a lesson -/

/-- A lesson is known by what is read off it. -/
theorem exists_lesson_of_reading {α : Type} {planner : Planner Unit} {request : Request}
    {options : Options} (read : Lesson → α) {a : α}
    (h : ((planner.lesson request options).run ()).1.toOption.map read = some a) :
    ∃ lesson, (planner.lesson request options).run () = (.ok lesson, ()) ∧ read lesson = a := by
  rcases hrun : (planner.lesson request options).run () with ⟨result, ⟨⟩⟩
  rw [hrun] at h
  cases result with
  | error fault => exact absurd h (by simp [Except.toOption])
  | ok lesson => exact ⟨lesson, rfl, Option.some.inj h⟩

end Planner

end BilingualLessons.Lesson
