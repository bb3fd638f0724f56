import BilingualLessons.Proofs.Grammar.Served
import BilingualLessons.Proofs.Lesson.BestEffort
import BilingualLessons.Proofs.Lesson.Words

namespace BilingualLessons.Lesson

/-!
# Lessons that conform to their requests

A lesson goes through many hands before it is there.  Whatever they do, its words and its concepts
are those that the request asks for.

* `Planner.parts_of_thematicLesson`, `Planner.parts_of_grammarLesson`,
  `Planner.parts_of_contextualLesson` — where the words and the concepts of a lesson come from.
* `OnlyFirst` — the first of several things that there is a use for, and nothing else.
* `ThematicContent`, `GrammarContent`, `ContextualContent` — what a lesson may contain.
* `Planner.lessons_conform_to_requests` — what every lesson contains.
-/

open Vocabulary

variable {σ : Type}

/-! ### The parts of a lesson -/

namespace Planner

variable {planner : Planner σ} {request : Request} {options : Options} {lesson : Lesson} {s s' : σ}

/-- A lesson is made by the way of its kind. -/
theorem plan_of_lesson (h : (planner.lesson request options).run s = (.ok lesson, s')) :
    (planner.plan (.ofKind request.kind) request options).runFrom s = (.ok lesson, s') := by
  rw [lesson_run] at h
  rcases hplan : (planner.plan (.ofKind request.kind) request options).runFrom s
    with ⟨result, s''⟩
  rw [hplan] at h
  obtain ⟨hresult, rfl⟩ := Prod.mk.inj h
  rw [mapError_eq_ok_iff.mp hresult]

/-- A thematic lesson has the words that were chosen, and no concepts. -/
theorem parts_of_thematicLesson
    (h : (planner.thematicLesson request options).runFrom s = (.ok lesson, s')) :
    (∃ s₁, (planner.chooseWords request options).runFrom s = (.ok lesson.vocabulary, s₁)) ∧
      lesson.concepts = [] := by
  obtain ⟨items, s₁, hwords, h⟩ := exists_of_runFrom_bind h
  obtain ⟨outcome, s₂, -, h⟩ := exists_of_runFrom_bind h
  obtain ⟨⟨⟩, -⟩ := Prod.mk.inj h
  exact ⟨⟨s₁, hwords⟩, rfl⟩

/-- A grammar lesson has the rule that was found, if there was one, and words for it. -/
theorem parts_of_grammarLesson
    (h : (planner.grammarLesson request).runFrom s = (.ok lesson, s')) :
    (∃ s₁, (planner.exampleWords request (planner.mainConcept? request)).runFrom s
      = (.ok lesson.vocabulary, s₁)) ∧
      lesson.concepts = (planner.mainConcept? request).toList := by
  obtain ⟨items, s₁, hwords, h⟩ := exists_of_runFrom_bind h
  obtain ⟨outcome, s₂, -, h⟩ := exists_of_runFrom_bind h
  obtain ⟨⟨⟩, -⟩ := Prod.mk.inj h
  exact ⟨⟨s₁, hwords⟩, rfl⟩

/-- A contextual lesson has the words of its category and the rule of its level. -/
theorem parts_of_contextualLesson
    (h : (planner.contextualLesson request options).runFrom s = (.ok lesson, s')) :
    (∃ s₁ s₂, (ask (planner.provider.byCategory (planner.contextualCategory request)
      (gradeFilter request.level (some (planner.contextualLimit options))))).runFrom s₁
        = (.ok lesson.vocabulary, s₂)) ∧
      lesson.concepts = (planner.contextualConcept? request).toList := by
  obtain ⟨template, s₁, -, h⟩ := exists_of_runFrom_bind h
  obtain ⟨items, s₂, hwords, h⟩ := exists_of_runFrom_bind h
  obtain ⟨part, s₃, -, h⟩ := exists_of_runFrom_bind h
  obtain ⟨⟨⟩, -⟩ := Prod.mk.inj h
  exact ⟨⟨s₁, s₂, hwords⟩, rfl⟩

end Planner

/-! ### What a lesson may contain -/

/-- Of the things at hand, `found` is the first that there is a use for, and nothing if there is
    none. -/
def OnlyFirst {α : Type} (useful : α → Prop) (atHand found : List α) : Prop :=
  (found = [] ∧ ∀ a ∈ atHand, ¬ useful a) ∨
    ∃ before a after, atHand = before ++ a :: after ∧ (∀ earlier ∈ before, ¬ useful earlier) ∧
      useful a ∧ found = [a]

theorem onlyFirst_find? {α : Type} {useful : α → Prop} {p : α → Bool}
    (h : ∀ a, p a = true ↔ useful a) (atHand : List α) :
    OnlyFirst useful atHand (atHand.find? p).toList := by
  -- what is found has nothing useful before it, and nothing is found if nothing is useful
  cases hfind : atHand.find? p with
  | none =>
    refine .inl ⟨rfl, fun a ha huseful => ?_⟩
    exact List.find?_eq_none.mp hfind a ha ((h a).mpr huseful)
  | some a =>
    obtain ⟨hp, before, after, hsplit, hbefore⟩ := List.find?_eq_some_iff_append.mp hfind
    refine .inr ⟨before, a, after, hsplit, fun earlier hearlier huseful => ?_, (h a).mp hp, rfl⟩
    exact absurd ((h earlier).mpr huseful) (by simpa using hbefore earlier hearlier)

/-- The request can be for a lesson on this concept: it is of the level, about the part of speech,
    and of the type that the request names, as far as it does. -/
structure Request.Seeks (request : Request) (concept : Grammar.Concept) : Prop where
  level : concept.level = request.level
  part : ∀ part ∈ request.criteria.partOfSpeech, part ∈ concept.partsOfSpeech
  type : ∀ type ∈ request.criteria.conceptType,
    Text.occursIn type concept.id = true ∨ type ∈ concept.related

theorem Request.admits_conceptCriteria_iff (request : Request) (concept : Grammar.Concept) :
    request.conceptCriteria.admits concept = true ↔ request.Seeks concept := by
  have htype : ∀ type, Grammar.Criteria.isOfType concept type = true ↔
      Text.occursIn type concept.id = true ∨ type ∈ concept.related := by
    simp [Grammar.Criteria.isOfType]
  have hpart : ∀ part, concept.appliesTo part = true ↔ part ∈ concept.partsOfSpeech := fun part =>
    List.contains_iff_mem
  simp only [Grammar.Criteria.admits, conceptCriteria, Bool.and_eq_true, Option.all_eq_true,
    htype, hpart, Option.some.injEq, forall_eq', decide_eq_true_eq]
  exact ⟨fun ⟨⟨hlevel, hparts⟩, htypes⟩ => ⟨hlevel, hparts, htypes⟩,
    fun ⟨hlevel, hparts, htypes⟩ => ⟨⟨hlevel, hparts⟩, htypes⟩⟩

/-- A lesson around a theme has no more words than the request allows, or else the options, or else
    the settings. Under several categories they come in the order of the categories, each of which
    has its share at most. -/
structure ThematicContent (planner : Planner σ) (request : Request) (options : Options)
    (lesson : Lesson) : Prop where
  bounded : lesson.vocabulary.length ≤
    firstPositive [request.criteria.limit, options.maxItems] planner.settings.defaultItemLimit
  categorised : request.criteria.categories ≠ [] → ∀ item ∈ lesson.vocabulary,
    ∃ category ∈ request.criteria.categories, category ∈ item.categories
  grouped : request.criteria.categories ≠ [] →
    Grouped (firstPositive [request.criteria.limit, options.maxItems]
        planner.settings.defaultItemLimit ⌈/⌉ request.criteria.categories.length)
      request.criteria.categories lesson.vocabulary
  labelled : ∀ part ∈ request.criteria.partOfSpeech, ∀ item ∈ lesson.vocabulary,
    item.part = part.name
  concepts : lesson.concepts = []

/-- A grammar lesson is on the first concept that its request seeks, and its words are of the part
    of speech that this concept is about first of all. -/
structure GrammarContent (planner : Planner σ) (request : Request) (lesson : Lesson) : Prop where
  bounded : lesson.vocabulary.length ≤ planner.settings.grammarExampleCount
  concepts : OnlyFirst request.Seeks planner.catalogue.records lesson.concepts
  labelled : ∀ concept ∈ lesson.concepts, ∃ part, concept.partsOfSpeech.head? = some part ∧
    ∀ item ∈ lesson.vocabulary, item.partOfSpeech = part.name

/-- A contextual lesson has words of one category and the first concept of its level. -/
structure ContextualContent (planner : Planner σ) (request : Request) (options : Options)
    (lesson : Lesson) : Prop where
  bounded : lesson.vocabulary.length ≤
    firstPositive [options.maxItems] planner.settings.contextualItemLimit
  categorised : ∀ item ∈ lesson.vocabulary,
    request.criteria.categories.head?.getD planner.settings.defaultCategory ∈ item.categories
  concepts : OnlyFirst (fun concept => concept.level = request.level) planner.catalogue.records
    lesson.concepts

/-! ### What every lesson contains -/

namespace Planner

section

variable {planner : Planner σ} {store : Store} {draw : Nat → List Item → StateM σ (List Item)}
  (hstore : planner.provider = store.provider draw) {request : Request} {options : Options}
  {lesson : Lesson} {s s' : σ}
include hstore

theorem thematicContent_of_lesson (hdraw : Samples draw)
    (h : (planner.thematicLesson request options).runFrom s = (.ok lesson, s')) :
    OfLevel store request.level lesson.vocabulary ∧
      ThematicContent planner request options lesson := by
  obtain ⟨⟨s₁, hwords⟩, hconcepts⟩ := parts_of_thematicLesson h
  have hchosen := (chooseWords_yields_thematic hstore hdraw request options).of_run hwords
  rw [itemLimit_eq] at hchosen
  exact ⟨hchosen.ofLevel, {
    bounded := hchosen.bounded
    categorised := fun hsome item hitem => (hchosen.grouped hsome).exists_category hitem
    grouped := hchosen.grouped
    labelled := hchosen.labelled
    concepts := hconcepts }⟩

theorem grammarContent_of_lesson (hdraw : Samples draw)
    (hparts : ∀ concept ∈ planner.catalogue.records, ∃ part, concept.primaryPart? = some part)
    (h : (planner.grammarLesson request).runFrom s = (.ok lesson, s')) :
    OfLevel store request.level lesson.vocabulary ∧ GrammarContent planner request lesson := by
  obtain ⟨⟨s₁, hwords⟩, hconcepts⟩ := parts_of_grammarLesson h
  have hexamples := (exampleWords_yields hstore hdraw request _).of_run hwords
  have hmain : planner.mainConcept? request
      = planner.catalogue.records.find? request.conceptCriteria.admits :=
    planner.catalogue.head?_query request.conceptCriteria
  refine ⟨hexamples.ofLevel, hexamples.bounded, ?_, fun concept hconcept => ?_⟩
  · rw [hconcepts, hmain]
    exact onlyFirst_find? request.admits_conceptCriteria_iff _
  · -- a concept that is served is about a class of words, and by this class the words were searched
    rw [hconcepts, Option.mem_toList] at hconcept
    have hserved : concept ∈ planner.catalogue.records :=
      List.mem_of_find?_eq_some (hmain.symm.trans hconcept)
    obtain ⟨part, hpart⟩ := hparts concept hserved
    refine ⟨part, hpart, hexamples.labelled part ?_⟩
    rw [Option.mem_def.mp hconcept, Option.bind_some]
    exact hpart

theorem contextualContent_of_lesson
    (h : (planner.contextualLesson request options).runFrom s = (.ok lesson, s')) :
    OfLevel store request.level lesson.vocabulary ∧
      ContextualContent planner request options lesson := by
  obtain ⟨⟨s₁, s₂, hwords⟩, hconcepts⟩ := parts_of_contextualLesson h
  have hfound := (byCategory_yields hstore request _ _).of_run hwords
  have hconcept : planner.contextualConcept? request = planner.catalogue.records.find?
      ({ level := some request.level, limit := some 1 } : Grammar.Criteria).admits :=
    planner.catalogue.head?_query _
  refine ⟨hfound.ofLevel, ?_, hfound.inCategory, ?_⟩
  · rw [← contextualLimit_eq]
    exact hfound.bounded
  · rw [hconcepts, hconcept]
    refine onlyFirst_find? (fun concept => ?_) _
    simp [Grammar.Criteria.admits]

end

/-- **Lessons conform to their requests.** Over a store in memory and a catalogue from any source,
    whatever the templates, the options and the settings are: if there is a lesson at all, its
    words are items of the store and of the requested level, and the rest of its content is as the
    way of its kind has it. -/
theorem lessons_conform_to_requests (planner : Planner σ) {store : Store}
    {draw : Nat → List Item → StateM σ (List Item)}
    (hstore : planner.provider = store.provider draw) (hdraw : Samples draw)
    {source : Loading.Source}
    (hcatalogue : planner.catalogue = (Grammar.conceptRepository source).contents)
    (request : Request) (options : Options) {s s' : σ} {lesson : Lesson}
    (h : (planner.lesson request options).run s = (.ok lesson, s')) :
    (∀ item ∈ lesson.vocabulary, item ∈ store.items ∧ item.difficulty = request.level.number) ∧
      match Strategy.ofKind request.kind with
      | .thematic | .adaptive => ThematicContent planner request options lesson
      | .grammar => GrammarContent planner request lesson
      | .contextual => ContextualContent planner request options lesson := by
  have hplan := plan_of_lesson h
  cases hway : Strategy.ofKind request.kind <;> rw [hway] at hplan
  case thematic => exact thematicContent_of_lesson hstore hdraw hplan
  case adaptive => exact thematicContent_of_lesson hstore hdraw hplan
  case grammar =>
    refine grammarContent_of_lesson hstore hdraw (fun concept hconcept => ?_) hplan
    -- every rule a repository accepts names a part of speech
    rw [hcatalogue] at hconcept
    exact Grammar.Concept.exists_primaryPart
      (Grammar.Concept.validate_of_mem_contents hconcept)
  case contextual => exact contextualContent_of_lesson hstore hplan

/-- Lessons over three nouns, a verb and a greeting that the data call a noun. A lesson on nouns of
    two categories has two of each at most, and the greeting is left out. A lesson on a rule passes
    over the rule of another level and the verb, and has the first three words that the data call
    nouns. A lesson in context has the words of its category, whatever they are, and the same
    rule. -/
theorem lessons_conform_to_requests_for_three_nouns :
    let store : Store := ⟨[⟨"haus", "Haus", "къща", "noun", 1, ["home"], none, []⟩,
      ⟨"tuer", "Tür", "врата", "noun", 1, ["home"], none, []⟩,
      ⟨"essen", "essen", "ям", "verb", 1, ["home"], none, []⟩,
      ⟨"guten_tag", "Guten Tag", "Добър ден", "noun", 1, ["city"], none, []⟩,
      ⟨"stadt", "Stadt", "град", "noun", 1, ["city"], none, []⟩]⟩
    let draw : Nat → List Item → StateM Unit (List Item) := sampleBy fun _ => return 0
    let articles : Grammar.Concept := { Grammar.Concept.fallback with id := "articles" }
    let source : Loading.Source := .records "grammar"
      [{ articles with id := "cases", level := .a2 : Grammar.Concept }.encode, articles.encode]
    let template : LessonKind → LessonTemplate := fun kind => {
      id := kind.name, name := "Words", description := "Words", kind, lowest := .a1, highest := .c1
      body := "\x7b\x7b#each vocabulary\x7d\x7d\x7b\x7bgerman\x7d\x7d \x7b\x7b/each\x7d\x7d"
      declared := [] }
    let planner : Planner Unit := {
      shelf := (templateRepository 20 (.records "templates"
        [(template .vocabulary).encode, (template .grammar).encode,
          (template .mixed).encode])).contents
      catalogue := (Grammar.conceptRepository source).contents
      provider := store.provider draw
      pick := fun _ => return 0
      settings := { grammarExampleCount := 3 } }
    let words : Request := {
      level := .a1
      criteria := {
        categories := ["home", "city"], partOfSpeech := some .noun, limit := some 3 } }
    let rule : Request := { kind? := some .grammar, level := .a1 }
    let story : Request := {
      kind? := some .contextual, level := .a1, criteria := { categories := ["home"] } }
    planner.provider = store.provider draw ∧ Samples draw ∧
    planner.catalogue = (Grammar.conceptRepository source).contents ∧
    (∃ lesson, (planner.lesson words {}).run () = (.ok lesson, ()) ∧
      (∀ item ∈ lesson.vocabulary, item ∈ store.items ∧ item.difficulty = 1) ∧
      ThematicContent planner words {} lesson ∧
      lesson.vocabulary.map (·.id) = ["haus", "tuer", "stadt"] ∧ lesson.concepts = []) ∧
    (∃ lesson, (planner.lesson rule {}).run () = (.ok lesson, ()) ∧
      (∀ item ∈ lesson.vocabulary, item ∈ store.items ∧ item.difficulty = 1) ∧
      GrammarContent planner rule lesson ∧
      lesson.vocabulary.map (·.id) = ["haus", "tuer", "guten_tag"] ∧
      lesson.concepts = [articles]) ∧
    ∃ lesson, (planner.lesson story {}).run () = (.ok lesson, ()) ∧
      (∀ item ∈ lesson.vocabulary, item ∈ store.items ∧ item.difficulty = 1) ∧
      ContextualContent planner story {} lesson ∧
      lesson.vocabulary.map (·.id) = ["haus", "tuer", "essen"] ∧ lesson.concepts = [articles] := by
  intro store draw articles source template planner words rule story
  have hdraw : Samples draw := sampleBy_samples _
  have hcatalogue : planner.catalogue = (Grammar.conceptRepository source).contents := rfl
  let read : Lesson → List String × List Grammar.Concept :=
    fun lesson => (lesson.vocabulary.map (·.id), lesson.concepts)
  refine ⟨rfl, hdraw, hcatalogue, ?_, ?_, ?_⟩
  · have hread : ((planner.lesson words {}).run ()).1.toOption.map read
        = some (["haus", "tuer", "stadt"], []) := by decide +kernel
    obtain ⟨lesson, hrun, hlesson⟩ := exists_lesson_of_reading read hread
    obtain ⟨hstored, hcontent⟩ :=
      lessons_conform_to_requests planner rfl hdraw hcatalogue words {} hrun
    obtain ⟨hids, hconcepts⟩ := Prod.mk.inj hlesson
    exact ⟨lesson, hrun, hstored, hcontent, hids, hconcepts⟩
  · have hread : ((planner.lesson rule {}).run ()).1.toOption.map read
        = some (["haus", "tuer", "guten_tag"], [articles]) := by decide +kernel
    obtain ⟨lesson, hrun, hlesson⟩ := exists_lesson_of_reading read hread
    obtain ⟨hstored, hcontent⟩ :=
      lessons_conform_to_requests planner rfl hdraw hcatalogue rule {} hrun
    obtain ⟨hids, hconcepts⟩ := Prod.mk.inj hlesson
    exact ⟨lesson, hrun, hstored, hcontent, hids, hconcepts⟩
  · have hread : ((planner.lesson story {}).run ()).1.toOption.map read
        = some (["haus", "tuer", "essen"], [articles]) := by decide +kernel
    obtain ⟨lesson, hrun, hlesson⟩ := exists_lesson_of_reading read hread
    obtain ⟨hstored, hcontent⟩ :=
      lessons_conform_to_requests planner rfl hdraw hcatalogue story {} hrun
    obtain ⟨hids, hconcepts⟩ := Prod.mk.inj hlesson
    exact ⟨lesson, hrun, hstored, hcontent, hids, hconcepts⟩

end Planner

end BilingualLessons.Lesson
