import BilingualLessons.Lesson.Grammatical
import BilingualLessons.Text.LetterCase

namespace BilingualLessons.Lesson

/-!
# Contextual lessons

The words of one category together with one rule, in a single section.

* `Planner.contextualLesson` — the lesson; whatever fails makes it fail.
-/

/-- The tip of a contextual lesson. -/
def contextualTip : String := "Try to narrate a short story using these words."

/-- What a contextual lesson is good for. -/
def contextualObjectives (category : String) (concept? : Option Grammar.Concept) : List String :=
  let application := match concept? with
    | some concept => s!"Apply {concept.name.german} in context"
    | none => "Practice sentence construction"
  [s!"Master vocabulary related to {category}", application, "Build reading comprehension"]

/-- The kind of the section of a contextual lesson. -/
def contextualSectionKind (kind : LessonKind) : SectionKind :=
  if kind = .cultural then .cultural else .vocabulary

namespace Planner

/-- The category of a contextual lesson: the first one requested, or else that of the settings. -/
def contextualCategory (planner : Planner σ) (request : Request) : String :=
  request.criteria.categories.head?.getD planner.settings.defaultCategory

/-- How many words a contextual lesson may have. -/
def contextualLimit (planner : Planner σ) (options : Options) : Nat :=
  (positive? options.maxItems).getD planner.settings.contextualItemLimit

/-- The rule of a contextual lesson: the first one of the requested level. -/
def contextualConcept? (planner : Planner σ) (request : Request) : Option Grammar.Concept :=
  (planner.catalogue.query { level := some request.level, limit := some 1 }).head?

/-- A lesson of one section. -/
def contextualLesson (planner : Planner σ) (request : Request) (options : Options) :
    Planning σ Lesson := do
  let template ← planner.template "mixed-lesson" .mixed request
  let concept? := planner.contextualConcept? request
  let category := planner.contextualCategory request
  let items ← ask (planner.provider.byCategory category
    (gradeFilter request.level (some (planner.contextualLimit options))))
  let title := s!"Contextual Lesson: {Text.capitalize category}"
  let objectives := contextualObjectives category concept?
  let context := (request.sectionContext title).extend <|
    [("theme", .string category), ("difficulty", request.level.encode),
      ("vocabulary", annotatedWords items), ("learningTip", .string contextualTip),
      ("learningObjectives", .ofStrings objectives)] ++
    (concept?.map conceptEntry).toList
  let part ← planner.renderSection template context "Main Content"
    (contextualSectionKind request.kind)
  let draft : Draft := {
    title
    outcome := { sections := [part] }
    vocabulary := items
    concepts := concept?.toList
    objectives }
  return draft.lesson request

end Planner

end BilingualLessons.Lesson
