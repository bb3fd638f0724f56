import BilingualLessons.Lesson.WordChoice
import BilingualLessons.Text.LetterCase

namespace BilingualLessons.Lesson

/-!
# Thematic lessons

Words around a theme: an introduction, practice and, on request, a review of other words.

* `theme` — what the lesson is about, in words.
* `Planner.thematicAttempts` — the sections that are attempted.
* `Planner.thematicLesson` — the lesson.
-/

/-- The name of a theme without categories. -/
def generalTheme : String := "General"

/-- The categories with capitals. -/
def theme (categories : List String) : String :=
  if categories.isEmpty then generalTheme
  else ", ".intercalate (categories.map Text.capitalize)

/-- The title of a thematic lesson. -/
def thematicTitle (categories : List String) : String :=
  "Thematic Lesson: " ++
    (if categories.isEmpty then generalTheme else ", ".intercalate categories)

/-- What a thematic lesson is good for. -/
def thematicObjectives (size : Nat) (theme : String) : List String :=
  [s!"Learn {size} new words related to {theme}", "Practice pronunciation and usage"]

/-- The tip of an introduction. -/
def vocabularyTip : String :=
  "Focus on the gender of nouns (der, die, das) as you learn them."

namespace Planner

/-- The introduction: the words and what to learn. -/
def vocabularyIntroduction (planner : Planner σ) (request : Request)
    (items : List Vocabulary.Item) (theme : String) (objectives : List String) :
    Planning σ Section := do
  let template ← planner.template "vocabulary-intro" .vocabulary request
  let title := s!"Vocabulary: {theme}"
  let context := (request.sectionContext title).extend
    [("count", .ofNat items.length), ("theme", .string theme),
      ("difficulty", request.level.encode), ("vocabulary", annotatedWords items),
      ("learningTip", .string vocabularyTip), ("learningObjectives", .ofStrings objectives)]
  planner.renderSection template context title .introduction

/-- The practice: the words again. -/
def vocabularyPractice (planner : Planner σ) (request : Request) (items : List Vocabulary.Item) :
    Planning σ Section := do
  let template ← planner.template "vocabulary-practice" .vocabulary request
  let context := (request.sectionContext "Practice Exercises").extend
    [("instructions", .string "Test your knowledge of the new words."),
      ("vocabulary", annotatedWords items)]
  planner.renderSection template context "Practice" .exercise

/-- The review: a sample of its own, in place of the words of earlier lessons. -/
def vocabularyReview (planner : Planner σ) (request : Request) : Planning σ Section := do
  let template ← planner.template "vocabulary-review" .vocabulary request
  let items ← ask (planner.provider.sample planner.settings.reviewSampleSize
    (gradeFilter request.level none))
  let context := (request.sectionContext "Review").extend
    [("context", .string "Previous Lessons"), ("vocabulary", annotatedWords items)]
  planner.renderSection template context "Review" .summary

/-- The sections that are attempted: practice unless it is switched off or there are no words, a
    review if it is switched on. -/
def thematicAttempts (planner : Planner σ) (request : Request) (items : List Vocabulary.Item)
    (theme : String) (objectives : List String) : List (Attempt σ) :=
  let practice := request.switch? practiceSwitch ≠ some false && !items.isEmpty
  let review := request.switch? reviewSwitch = some true
  [⟨"introduction", planner.vocabularyIntroduction request items theme objectives⟩] ++
    (if practice then [⟨"practice", planner.vocabularyPractice request items⟩] else []) ++
    (if review then [⟨"review", planner.vocabularyReview request⟩] else [])

/-- A lesson of words around the requested categories. -/
def thematicLesson (planner : Planner σ) (request : Request) (options : Options) :
    Planning σ Lesson := do
  let items ← planner.chooseWords request options
  let theme := theme request.criteria.categories
  let objectives := thematicObjectives items.length theme
  let outcome ← requireSection request.kind
    (planner.thematicAttempts request items theme objectives)
  let draft : Draft := {
    title := thematicTitle request.criteria.categories
    outcome
    vocabulary := items
    objectives }
  return draft.lesson request

end Planner

end BilingualLessons.Lesson
