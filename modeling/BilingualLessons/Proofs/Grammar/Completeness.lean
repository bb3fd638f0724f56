import BilingualLessons.Proofs.Grammar.Served

namespace BilingualLessons.Grammar

open Loading

/-!
# Concepts in both languages

A concept speaks to learners of either language, so each of its texts comes in a pair.  The rules
of a concept ask for both halves of its name, of its description and of its examples, but do not
look at its cultural context.

* `InBothLanguages` — both halves of a pair of texts are there.
* `Concept.IsPresentable` — what the rules ask of a concept, its id apart;
  `Concept.validate_eq_ok_iff_presentable` — that this is what they ask.
* `Concept.IsBilingual` — every pair of texts of a concept is complete.
* `Catalogue.Returns` — the answers of a catalogue that give a concept.
* `served_concepts_are_bilingual_up_to_context` — which concepts a catalogue returns, and which of
  them are complete.
-/

/-! ### Pairs of texts -/

/-- Neither half of a pair of texts is blank. -/
def InBothLanguages (bulgarian german : String) : Prop :=
  Text.isBlankText bulgarian = false ∧ Text.isBlankText german = false

theorem BilingualText.isComplete_iff {text : BilingualText} :
    text.isComplete = true ↔ InBothLanguages text.bulgarian text.german := by
  simp [isComplete, InBothLanguages]

theorem Example.isComplete_iff {ex : Example} :
    ex.isComplete = true ↔ InBothLanguages ex.bulgarian ex.german := by
  simp [isComplete, InBothLanguages]

/-- Both perspectives and both explanations of a cultural context are there. -/
structure CulturalContext.IsBilingual (context : CulturalContext) : Prop where
  perspectives : InBothLanguages context.bulgarianPerspective context.germanPerspective
  explanations : InBothLanguages context.explanation.bgToDe context.explanation.deToBg

namespace Concept

/-- A concept has a name, a description and examples in both languages, and there is some class of
    words that it is about. -/
structure IsPresentable (concept : Concept) : Prop where
  name : InBothLanguages concept.name.bulgarian concept.name.german
  description : InBothLanguages concept.description.bulgarian concept.description.german
  parts : concept.partsOfSpeech ≠ []
  examples : concept.examples ≠ []
  bilingualExamples : ∀ ex ∈ concept.examples, InBothLanguages ex.bulgarian ex.german

/-- Every pair of texts of a concept is complete. -/
structure IsBilingual (concept : Concept) : Prop extends concept.IsPresentable where
  context : concept.culturalContext.IsBilingual

/-! ### The rules of a concept -/

/-- No rule on examples is broken if both halves of every example are there. -/
theorem brokenByExamples_eq_nil_iff (examples : List Example) (start : Nat) :
    ((examples.zipIdx start).filterMap fun (ex, i) =>
        if ex.isComplete then none else some (ConceptRule.exampleComplete i)) = [] ↔
      ∀ ex ∈ examples, InBothLanguages ex.bulgarian ex.german := by
  -- for all numbers to start from, since each example counts one further
  induction examples generalizing start with
  | nil => simp
  | cons ex rest ih =>
    rw [List.zipIdx_cons, List.forall_mem_cons, ← ih (start + 1), ← Example.isComplete_iff]
    by_cases hcomplete : ex.isComplete = true
    · rw [List.filterMap_cons_none (by simp [hcomplete])]
      simp [hcomplete]
    · rw [List.filterMap_cons_some (b := .exampleComplete start) (by simp [hcomplete])]
      simp [hcomplete]

/-- **The rules of a concept.** A concept keeps all rules exactly if it has an id and is
    presentable, whatever its cultural context says. -/
theorem validate_eq_ok_iff_presentable {concept : Concept} :
    concept.validate = .ok () ↔
      Text.isBlankText concept.id = false ∧ concept.IsPresentable := by
  have hexamples := brokenByExamples_eq_nil_iff concept.examples 0
  rw [validate_eq_ok_iff, brokenRules]
  -- each part of the list of broken rules is empty exactly if its test is passed
  simp only [List.append_eq_nil_iff, ite_eq_left_iff, ite_eq_right_iff, reduceCtorEq, imp_false,
    Classical.not_not, Bool.not_eq_true, List.isEmpty_eq_false_iff, hexamples,
    BilingualText.isComplete_iff]
  constructor
  · rintro ⟨⟨⟨⟨⟨hid, hname⟩, hdescription⟩, hparts⟩, hsome⟩, hpairs⟩
    exact ⟨hid, hname, hdescription, hparts, hsome, hpairs⟩
  · rintro ⟨hid, hname, hdescription, hparts, hsome, hpairs⟩
    exact ⟨⟨⟨⟨⟨hid, hname⟩, hdescription⟩, hparts⟩, hsome⟩, hpairs⟩

end Concept

/-! ### What a catalogue returns -/

/-- The answers of a catalogue that give a concept: among all of its concepts, for an id, or for
    criteria. -/
inductive Catalogue.Returns (catalogue : Catalogue) (concept : Concept) : Prop
  | all (h : concept ∈ catalogue.records)
  | byId (id : String) (h : catalogue.byId? id = some concept)
  | query (criteria : Criteria) (h : concept ∈ catalogue.query criteria)

/-- Every answer gives one of the concepts. -/
theorem Catalogue.mem_records_of_returns {catalogue : Catalogue} {concept : Concept}
    (h : catalogue.Returns concept) : concept ∈ catalogue.records := by
  cases h with
  | all h => exact h
  | byId id h => exact List.mem_of_find?_eq_some h
  | query criteria h => exact (List.mem_filter.mp (List.mem_of_mem_take h)).1

/-- **Served concepts.** Whatever its source is, a catalogue returns presentable concepts only, and
    of these the bilingual ones are those whose cultural context is. Nothing else is asked of a
    record that is a concept: it is served exactly if it has an id and is presentable. -/
theorem served_concepts_are_bilingual_up_to_context (source : Source) :
    let catalogue := (conceptRepository source).contents
    (∀ concept, Catalogue.Returns catalogue concept → concept.IsPresentable ∧
      (concept.IsBilingual ↔ concept.culturalContext.IsBilingual)) ∧
    ∀ batch, source.fetch = .ok batch → ∀ record ∈ batch.records, ∀ concept,
      Concept.decode record.value = .ok concept →
      (Catalogue.Returns catalogue concept ↔
        Text.isBlankText concept.id = false ∧ concept.IsPresentable) := by
  intro catalogue
  have hkeeps : ∀ concept, Catalogue.Returns catalogue concept →
      Text.isBlankText concept.id = false ∧ concept.IsPresentable := by
    intro concept hreturns
    have hserved : concept ∈ catalogue.records := Catalogue.mem_records_of_returns hreturns
    exact Concept.validate_eq_ok_iff_presentable.mp (Concept.validate_of_mem_contents hserved)
  refine ⟨fun concept hreturns => ?_, fun batch hfetch record hrecord concept hdecode => ?_⟩
  · obtain ⟨-, hpresentable⟩ := hkeeps concept hreturns
    exact ⟨hpresentable, fun hconcept => hconcept.context, fun hcontext =>
      { toIsPresentable := hpresentable, context := hcontext }⟩
  · refine ⟨hkeeps concept, fun hrules => .all ?_⟩
    -- no concept is compared with another one, so a valid record is accepted wherever it stands
    have hvalid : concept.validate = .ok () := Concept.validate_eq_ok_iff_presentable.mpr hrules
    exact mem_contents_of_judge hfetch hrecord fun _ =>
      Concept.ofRecord_eq_ok_iff.mpr ⟨hdecode, hvalid⟩

/-- A record whose cultural context says nothing in Bulgarian is served like any other. -/
theorem blank_perspective_is_served :
    let concept : Concept := { Concept.fallback with
      id := "articles"
      culturalContext := { Concept.fallback.culturalContext with bulgarianPerspective := " " } }
    let catalogue := (conceptRepository (.records "grammar" [concept.encode])).contents
    Catalogue.Returns catalogue concept ∧
      ¬ ∀ served, Catalogue.Returns catalogue served → served.IsBilingual := by
  intro concept catalogue
  have hreturns : Catalogue.Returns catalogue concept := .byId "articles" (by decide +kernel)
  refine ⟨hreturns, fun hall => ?_⟩
  have hperspective : Text.isBlankText " " = false :=
    (hall concept hreturns).context.perspectives.1
  exact absurd hperspective (by decide)

end BilingualLessons.Grammar
