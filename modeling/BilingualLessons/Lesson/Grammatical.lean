import BilingualLessons.Lesson.WordChoice

namespace BilingualLessons.Lesson

/-!
# Grammar lessons

One rule with words to apply it to: an explanation, practice and a comparison of the languages.

* `Planner.exampleWords` — the words of the lesson.
* `Planner.grammarAttempts` — the sections that are attempted.
* `Planner.grammarLesson` — the lesson.
-/

/-- The tip of an explanation. -/
def grammarTip : String :=
  "Focus on understanding the underlying logic rather than just memorizing rules."

/-- The criteria for the rule of a lesson. -/
def Request.conceptCriteria (request : Request) : Grammar.Criteria where
  level := some request.level
  partOfSpeech := request.criteria.partOfSpeech
  conceptType := request.criteria.conceptType

/-- The name of a rule as sections show it, or words in its place. -/
def nameOr (concept? : Option Grammar.Concept) (words : String) : String :=
  match concept? with
  | some concept => concept.name.german
  | none => words

/-- The rule as a value that a section has at hand. -/
def conceptEntry (concept : Grammar.Concept) : String × Json := ("grammarConcept", concept.encode)

/-- What a grammar lesson is good for. -/
def grammarObjectives (concept? : Option Grammar.Concept) : List String :=
  ["Understand " ++ nameOr concept? "the grammar rule", "Apply the rule in context",
    "Compare with Bulgarian usage"]

/-- The title of a grammar lesson. -/
def grammarTitle : Option Grammar.Concept → String
  | some concept => s!"Grammar: {concept.name.german}"
  | none => "Grammar Lesson"

namespace Planner

/-- The rule of a grammar lesson, if there is one that fits. -/
def mainConcept? (planner : Planner σ) (request : Request) : Option Grammar.Concept :=
  (planner.catalogue.query request.conceptCriteria).head?

/-- Words of the part of speech that the rule is about first of all; without one, a sample. -/
def exampleWords (planner : Planner σ) (request : Request) (concept? : Option Grammar.Concept) :
    Planning σ (List Vocabulary.Item) :=
  let size := planner.settings.grammarExampleCount
  match concept?.bind Grammar.Concept.primaryPart? with
  | some part => do
    return (← ask (planner.provider.search (gradeSearch request.level part size))).items
  | none => ask (planner.provider.sample size (gradeFilter request.level none))

/-- The explanation of the rule, or of rules in general. -/
def grammarExplanation (planner : Planner σ) (request : Request)
    (concept? : Option Grammar.Concept) (items : List Vocabulary.Item) : Planning σ Section := do
  let template ← planner.template "grammar-concept" .grammar request
  let title := "Grammar: " ++ nameOr concept? "Grammar Rule"
  let objectives := ["Understand the concept of " ++ nameOr concept? "this grammar rule",
    "Compare " ++ nameOr concept? "it" ++ " with Bulgarian usage"]
  let context := (request.sectionContext title).extend <|
    [("vocabulary", .array (items.map Vocabulary.Item.encode)),
      ("learningTip", .string grammarTip), ("learningObjectives", .ofStrings objectives)] ++
    (concept?.map conceptEntry).toList
  let part ← planner.renderSection template context "Explanation" .grammar
  return match concept? with
    | some concept =>
      { part with metadata := part.metadata.insert "conceptId" (.string concept.id) }
    | none => part

/-- The practice: the rule and some of the words. -/
def grammarPractice (planner : Planner σ) (request : Request) (concept : Grammar.Concept)
    (items : List Vocabulary.Item) : Planning σ Section := do
  let template ← planner.template "grammar-practice" .grammar request
  let chosen := items.take planner.settings.grammarPracticeCount
  let context := (request.sectionContext "Grammar Practice").extend
    [conceptEntry concept, ("vocabulary", .array (chosen.map Vocabulary.Item.encode))]
  planner.renderSection template context "Practice" .exercise

/-- The comparison of the languages. -/
def grammarComparison (planner : Planner σ) (request : Request) (template : LessonTemplate)
    (concept : Grammar.Concept) : Planning σ Section :=
  let context := (request.sectionContext "Cultural Comparison").extend [conceptEntry concept]
  planner.renderSection template context "Comparison" .cultural

/-- The attempt at a comparison. Only a template of its own makes one. -/
def comparisonAttempts (planner : Planner σ) (request : Request) (concept : Grammar.Concept) :
    List (Attempt σ) :=
  match planner.shelf.byId? "grammar-comparison" with
  | some template => [⟨"comparison", planner.grammarComparison request template concept⟩]
  | none => []

/-- The sections that are attempted: without a rule the explanation alone, and otherwise practice
    and comparison too, unless they are switched off. -/
def grammarAttempts (planner : Planner σ) (request : Request) (concept? : Option Grammar.Concept)
    (items : List Vocabulary.Item) : List (Attempt σ) :=
  ⟨"explanation", planner.grammarExplanation request concept? items⟩ ::
    match concept? with
    | none => []
    | some concept =>
      (if request.switch? practiceSwitch = some false then []
        else [⟨"practice", planner.grammarPractice request concept items⟩]) ++
      (if request.switch? comparisonSwitch = some false then []
        else planner.comparisonAttempts request concept)

/-- A lesson on one rule. -/
def grammarLesson (planner : Planner σ) (request : Request) : Planning σ Lesson := do
  let concept? := planner.mainConcept? request
  let items ← planner.exampleWords request concept?
  let outcome ← requireSection request.kind (planner.grammarAttempts request concept? items)
  let draft : Draft := {
    title := grammarTitle concept?
    outcome
    vocabulary := items
    concepts := concept?.toList
    objectives := grammarObjectives concept? }
  return draft.lesson request

end Planner

end BilingualLessons.Lesson
