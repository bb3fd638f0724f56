import BilingualLessons.Direction
import BilingualLessons.LessonKind
import BilingualLessons.Level
import BilingualLessons.PartOfSpeech
import BilingualLessons.Record.Shape

namespace BilingualLessons.Lesson

/-!
# Requests for lessons

* `Criteria` — what the content of a lesson is narrowed down to.
* `Request` — the lesson that is wanted.
* `Options` — how it is put together.
-/

/-- What the content of a lesson is narrowed down to. -/
structure Criteria where
  categories : List String := []
  partOfSpeech : Option PartOfSpeech := none
  level : Option Level := none
  /-- The number of words. -/
  limit : Option Nat := none
  conceptType : Option String := none
deriving DecidableEq, Repr

namespace Criteria

/-- The fields of the record. -/
def shape : Record.Shape where
  name := "LessonCriteria"
  slots := [.defaulted "categories" (Record.list Record.text),
    .optional "partOfSpeech" PartOfSpeech.decode, .optional "difficulty" Level.decode,
    .optional "limit" Record.count, .optional "conceptType" Record.text]

/-- The criteria of a record. -/
def decode : Record.Decoder Criteria := fun v => do
  let found ← shape.read v
  return {
    categories := ← found.defaulted "categories" (Record.list Record.text) []
    partOfSpeech := ← found.optional "partOfSpeech" PartOfSpeech.decode
    level := ← found.optional "difficulty" Level.decode
    limit := ← found.optional "limit" Record.count
    conceptType := ← found.optional "conceptType" Record.text }

/-- The record of criteria. -/
def encode (criteria : Criteria) : Json :=
  .object [("categories", .ofStrings criteria.categories),
    ("conceptType", .ofOption .string criteria.conceptType),
    ("difficulty", .ofOption Level.encode criteria.level),
    ("limit", .ofOption .ofNat criteria.limit),
    ("partOfSpeech", .ofOption PartOfSpeech.encode criteria.partOfSpeech)]

end Criteria

/-- The lesson that is wanted. -/
structure Request where
  /-- What the lesson is about; without a kind it is a vocabulary lesson. -/
  kind? : Option LessonKind := none
  level : Level
  criteria : Criteria := {}
  userId : Option String := none
  direction : Direction := .germanToBulgarian
  /-- Switches of sections, and whatever else the lesson shall carry. -/
  metadata : Fields := []
deriving DecidableEq, Repr

/-! ### Switches -/

/-- The key of the switch of the practice section. -/
def practiceSwitch : String := "includePractice"

/-- The key of the switch of the review section. -/
def reviewSwitch : String := "includeReview"

/-- The key of the switch of the comparison section. -/
def comparisonSwitch : String := "includeComparison"

namespace Request

/-- What the lesson is about. -/
def kind (request : Request) : LessonKind := request.kind?.getD .vocabulary

/-- The switch under a key, if there is one. -/
def switch? (request : Request) (key : String) : Option Bool :=
  (request.metadata.get? key).bind Json.asBool?

/-- The fields of the record. -/
def shape : Record.Shape where
  name := "LessonGenerationParams"
  slots := [.optional "type" LessonKind.decode, .required "difficulty" Level.decode,
    .defaulted "criteria" Criteria.decode, .optional "userId" Record.text,
    .defaulted "direction" Direction.decode, .defaulted "metadata" Record.map]

/-- The request of a record. -/
def decode : Record.Decoder Request := fun v => do
  let found ← shape.read v
  return {
    kind? := ← found.optional "type" LessonKind.decode
    level := ← found.required "difficulty" Level.decode
    criteria := ← found.defaulted "criteria" Criteria.decode {}
    userId := ← found.optional "userId" Record.text
    direction := ← found.defaulted "direction" Direction.decode .germanToBulgarian
    metadata := ← found.defaulted "metadata" Record.map [] }

/-- The record of a request. -/
def encode (request : Request) : Json :=
  .object [("criteria", request.criteria.encode), ("difficulty", request.level.encode),
    ("direction", request.direction.encode), ("metadata", .object request.metadata),
    ("type", .ofOption LessonKind.encode request.kind?),
    ("userId", .ofOption .string request.userId)]

end Request

/-- How far a lesson is fitted to the learner. -/
inductive Personalization where
  | low
  | medium
  | high
deriving DecidableEq, Repr

namespace Personalization

/-- The name of a degree. -/
def name : Personalization → String
  | .low => "low"
  | .medium => "medium"
  | .high => "high"

/-- The names of the degrees. -/
def names : List (String × Personalization) :=
  [("low", .low), ("medium", .medium), ("high", .high)]

/-- The degree of exactly this name. -/
def decode : Record.Decoder Personalization := Record.variant names

/-- The name as a value. -/
def encode (degree : Personalization) : Json := .string degree.name

end Personalization

/-- How a lesson is put together. -/
structure Options where
  spacedRepetition : Option Bool := none
  difficultyAdjustment : Option Bool := none
  culturalContext : Option Bool := none
  personalization : Option Personalization := none
  /-- The number of words where the request names none. -/
  maxItems : Option Nat := none
deriving DecidableEq, Repr

namespace Options

/-- The fields of the record. -/
def shape : Record.Shape where
  name := "LessonGenerationOptions"
  slots := [.optional "useSpacedRepetition" Record.boolean,
    .optional "difficultyAdjustment" Record.boolean, .optional "culturalContext" Record.boolean,
    .optional "personalizationLevel" Personalization.decode, .optional "maxItems" Record.count]

/-- The options of a record. -/
def decode : Record.Decoder Options := fun v => do
  let found ← shape.read v
  return {
    spacedRepetition := ← found.optional "useSpacedRepetition" Record.boolean
    difficultyAdjustment := ← found.optional "difficultyAdjustment" Record.boolean
    culturalContext := ← found.optional "culturalContext" Record.boolean
    personalization := ← found.optional "personalizationLevel" Personalization.decode
    maxItems := ← found.optional "maxItems" Record.count }

/-- The record of options. -/
def encode (options : Options) : Json :=
  .object [("culturalContext", .ofOption .bool options.culturalContext),
    ("difficultyAdjustment", .ofOption .bool options.difficultyAdjustment),
    ("maxItems", .ofOption .ofNat options.maxItems),
    ("personalizationLevel", .ofOption Personalization.encode options.personalization),
    ("useSpacedRepetition", .ofOption .bool options.spacedRepetition)]

end Options

end BilingualLessons.Lesson
