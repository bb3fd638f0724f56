import BilingualLessons.Proofs.Lesson.Conformity
import BilingualLessons.Proofs.Lesson.Selection

namespace BilingualLessons.Lesson

/-!
# The words for a rule

A grammar lesson takes its words from a search for the class that its rule is about.  The search
goes by the class that the data give a word, so a word under a wrong class comes along.

* `part_eq_name_iff` — whether a word under the name of a class belongs there.
* `Planner.exampleWords_yields_of_part` — the words for a class, exactly.
* `Planner.rule_words_belong_iff` — the words of a lesson on a rule, and which of them belong to its
  class.
-/

open Vocabulary

variable {σ : Type}

/-! ### Words under a wrong class -/

/-- There is one correction for an item at most. -/
theorem nodup_corrected_ids : (corrections.map (·.1)).Nodup := by decide +kernel

theorem name_ne_numeral (part : PartOfSpeech) : part.name ≠ "numeral" := by
  cases part <;> decide

/-- A word under the name of a class belongs there unless a correction says something else. -/
theorem part_eq_name_iff {item : Item} {part : PartOfSpeech} (h : item.partOfSpeech = part.name) :
    item.part = part.name ↔
      ∀ corrected, (item.id, corrected) ∈ corrections → corrected = part.name := by
  unfold Item.part correctedPart
  cases hfind : corrections.find? (·.1 == item.id) with
  | none =>
    have hnone : ∀ corrected, (item.id, corrected) ∉ corrections := fun corrected hmem =>
      List.find?_eq_none.mp hfind _ hmem (beq_self_eq_true item.id)
    rw [if_neg (h ▸ name_ne_numeral part)]
    exact ⟨fun _ corrected hmem => absurd hmem (hnone corrected), fun _ => h⟩
  | some entry =>
    -- the entry found is the only one of the item
    obtain ⟨id, corrected⟩ := entry
    have hmem : (id, corrected) ∈ corrections := List.mem_of_find?_eq_some hfind
    obtain rfl : id = item.id := by simpa using List.find?_some hfind
    refine ⟨fun hpart other hother => ?_, fun hall => hall corrected hmem⟩
    have hsame := List.inj_on_of_nodup_map nodup_corrected_ids hother hmem rfl
    exact (congrArg Prod.snd hsame).trans hpart

/-! ### The words of a lesson on a rule -/

namespace Planner

section

variable {planner : Planner σ} {store : Store} {draw : Nat → List Item → StateM σ (List Item)}
  (hstore : planner.provider = store.provider draw)
include hstore

/-- The words for a rule about a class are the first ones under the name of the class. -/
theorem exampleWords_yields_of_part (request : Request) {concept? : Option Grammar.Concept}
    {part : PartOfSpeech} (hpart : concept?.bind Grammar.Concept.primaryPart? = some part) :
    (planner.exampleWords request concept?).Yields (· =
      ((graded store request.level).filter (·.partOfSpeech = part.name)).take
        planner.settings.grammarExampleCount) := by
  intro s
  unfold exampleWords
  rw [hpart]
  refine ⟨_, s, runFrom_bind_of_ok (ask_search hstore _ s), ?_⟩
  exact search_gradeSearch store request.level part planner.settings.grammarExampleCount

end

/-- **Words for a rule.** The words of a lesson on a rule are the first ones of the level that the
    data have under the class which the rule is about first of all. They belong to this class, as
    lessons go by it, exactly if no correction has them under another one. -/
theorem rule_words_belong_iff (planner : Planner σ) {store : Store}
    {draw : Nat → List Item → StateM σ (List Item)}
    (hstore : planner.provider = store.provider draw) {source : Loading.Source}
    (hcatalogue : planner.catalogue = (Grammar.conceptRepository source).contents)
    (request : Request) (hkind : request.kind = .grammar) (options : Options) {s s' : σ}
    {lesson : Lesson} (h : (planner.lesson request options).run s = (.ok lesson, s'))
    {concept : Grammar.Concept} (hconcept : lesson.concepts = [concept]) :
    ∃ part, concept.partsOfSpeech.head? = some part ∧
      lesson.vocabulary = ((graded store request.level).filter
        (·.partOfSpeech = part.name)).take planner.settings.grammarExampleCount ∧
      ∀ item ∈ lesson.vocabulary, item.part = part.name ↔
        ∀ corrected, (item.id, corrected) ∈ corrections → corrected = part.name := by
  have hplan := plan_of_lesson h
  rw [hkind] at hplan
  obtain ⟨⟨s₁, hfound⟩, hconcepts⟩ := parts_of_grammarLesson hplan
  have hmain : planner.mainConcept? request = some concept := by
    rw [← Option.toList_eq_singleton_iff, ← hconcepts, hconcept]
  have hserved : concept ∈ planner.catalogue.records := by
    rw [mainConcept?, planner.catalogue.head?_query] at hmain
    exact List.mem_of_find?_eq_some hmain
  -- a concept that is served is about some class, so the words are searched for and not drawn
  obtain ⟨part, hpart⟩ := Grammar.Concept.exists_primaryPart
    (Grammar.Concept.validate_of_mem_contents (hcatalogue ▸ hserved))
  have hprimary : (planner.mainConcept? request).bind Grammar.Concept.primaryPart? = some part := by
    rw [hmain, Option.bind_some, hpart]
  have hwords := (exampleWords_yields_of_part hstore request hprimary).of_run hfound
  refine ⟨part, hpart, hwords, fun item hitem => part_eq_name_iff ?_⟩
  rw [hwords] at hitem
  simpa using (List.mem_filter.mp (List.mem_of_mem_take hitem)).2

/-- A template for the words of a rule. -/
def wordList : LessonTemplate where
  id := "grammar-concept"
  name := "Words"
  description := "The words of a rule"
  kind := .grammar
  lowest := .a1
  highest := .c1
  body := "\x7b\x7b#each vocabulary\x7d\x7d\x7b\x7bgerman\x7d\x7d \x7b\x7b/each\x7d\x7d"
  declared := []

/-- A planner over a store, with one template for grammar and the built-in concept. -/
def listing (store : Store) : Planner Unit :=
  { bare store with
    shelf := (templateRepository Template.defaultNesting
      (.records "templates" [wordList.encode])).contents }

/-- Of a noun and a verb, a lesson on articles has the noun. -/
theorem rule_words_belong_of_one_noun :
    let store : Store := ⟨[⟨"essen", "essen", "ям", "verb", 1, [], none, []⟩,
      ⟨"brot", "Brot", "хляб", "noun", 1, [], none, []⟩]⟩
    let planner := listing store
    let request : Request := {
      kind? := some .grammar, level := .a1, metadata := [("includePractice", .bool false)] }
    planner.provider = store.provider drawFirst ∧
      planner.catalogue = (Grammar.conceptRepository (.records "grammar" [])).contents ∧
      request.kind = .grammar ∧
      ∃ lesson, (planner.lesson request {}).run () = (.ok lesson, ()) ∧
        lesson.concepts = [Grammar.Concept.fallback] ∧ lesson.vocabulary = store.items.drop 1 ∧
        ∀ item ∈ lesson.vocabulary, item.part = "noun" := by
  intro store planner request
  have hstore : planner.provider = store.provider drawFirst := rfl
  have hcatalogue : planner.catalogue
      = (Grammar.conceptRepository (.records "grammar" [])).contents := rfl
  have hone : ((planner.lesson request {}).run ()).1.toOption.map
      (fun lesson => (lesson.concepts, lesson.vocabulary))
        = some ([Grammar.Concept.fallback], store.items.drop 1) := by
    decide +kernel
  obtain ⟨lesson, hrun, hread⟩ := exists_lesson_of_reading _ hone
  obtain ⟨hconcepts, hwords⟩ := Prod.mk.inj hread
  obtain ⟨part, hpart, -, hbelongs⟩ :=
    rule_words_belong_iff planner hstore hcatalogue request rfl {} hrun hconcepts
  obtain rfl : part = .noun := Option.some.inj hpart.symm
  have hcorrected : ∀ item ∈ store.items.drop 1, ∀ entry ∈ corrections, entry.1 ≠ item.id := by
    decide +kernel
  refine ⟨hstore, hcatalogue, rfl, lesson, hrun, hconcepts, hwords, fun item hitem => ?_⟩
  refine (hbelongs item hitem).mpr fun corrected hmem => ?_
  exact absurd rfl (hcorrected item (hwords ▸ hitem) _ hmem)

/-- A greeting that the data call a noun is among the nouns of a lesson on articles. -/
theorem greeting_is_among_the_nouns :
    let store : Store := ⟨[⟨"bitte", "bitte", "моля", "noun", 1, [], none, []⟩,
      ⟨"brot", "Brot", "хляб", "noun", 1, [], none, []⟩]⟩
    let planner := listing store
    let request : Request := {
      kind? := some .grammar, level := .a1, metadata := [("includePractice", .bool false)] }
    ∃ lesson, (planner.lesson request {}).run () = (.ok lesson, ()) ∧
      lesson.concepts = [Grammar.Concept.fallback] ∧
      Grammar.Concept.fallback.partsOfSpeech.head? = some .noun ∧
      ¬ ∀ item ∈ lesson.vocabulary, item.part = PartOfSpeech.noun.name := by
  intro store planner request
  have hboth : ((planner.lesson request {}).run ()).1.toOption.map
      (fun lesson => (lesson.concepts, lesson.vocabulary))
        = some ([Grammar.Concept.fallback], store.items) := by
    decide +kernel
  obtain ⟨lesson, hrun, hread⟩ := exists_lesson_of_reading _ hboth
  obtain ⟨hconcepts, hwords⟩ := Prod.mk.inj hread
  refine ⟨lesson, hrun, hconcepts, rfl, ?_⟩
  rw [hwords]
  decide +kernel

end Planner

end BilingualLessons.Lesson
