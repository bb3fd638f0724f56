import BilingualLessons.Grammar.Concept
import BilingualLessons.Lesson.Section
import BilingualLessons.LessonKind
import BilingualLessons.Timestamp
import BilingualLessons.Vocabulary.Item

namespace BilingualLessons

/-!
# Lessons

* `LessonOf` — a lesson whose sections are of a given type.
* `Lesson` — a lesson as it is put together.
* `IssuedLesson` — a lesson under an id, with the time of its making.
* `Lesson.issue` — gives a lesson and its sections their ids.
-/

/-- A lesson whose sections are of type `S`. -/
structure LessonOf (S : Type) where
  kind : LessonKind
  level : Level
  title : String
  sections : List S
  vocabulary : List Vocabulary.Item := []
  concepts : List Grammar.Concept := []
  objectives : List String := []
  skipped : List Lesson.SkippedSection := []
  metadata : Fields := []
deriving DecidableEq, Repr

/-- A lesson as it is put together. -/
abbrev Lesson := LessonOf Lesson.Section

/-- A lesson under an id, with the time of its making. -/
structure IssuedLesson extends LessonOf Lesson.IssuedSection where
  id : Uuid
  createdAt : Timestamp
  updatedAt : Timestamp
deriving DecidableEq, Repr

/-- The fields of a lesson's record. -/
def LessonOf.fields (encodeSection : S → Json) (lesson : LessonOf S) : Fields :=
  [("difficulty", lesson.level.encode),
    ("grammarConcepts", .array (lesson.concepts.map Grammar.Concept.encode)),
    ("learningObjectives", .ofStrings lesson.objectives), ("metadata", .object lesson.metadata),
    ("sections", .array (lesson.sections.map encodeSection)),
    ("skippedSections", .array (lesson.skipped.map Lesson.SkippedSection.encode)),
    ("title", .string lesson.title), ("type", lesson.kind.encode),
    ("vocabulary", .array (lesson.vocabulary.map Vocabulary.Item.encode))]

namespace Lesson

/-- The record of a lesson without ids and times. -/
def encode (lesson : Lesson) : Json := .object (lesson.fields Section.encode)

/-- A lesson under an id; its sections take theirs from `sectionIds`. -/
def issue (lesson : Lesson) (id : Uuid) (sectionIds : List Uuid) (now : Timestamp) :
    IssuedLesson where
  kind := lesson.kind
  level := lesson.level
  title := lesson.title
  sections := lesson.sections.zipWith (fun part id => ⟨part, id⟩) sectionIds
  vocabulary := lesson.vocabulary
  concepts := lesson.concepts
  objectives := lesson.objectives
  skipped := lesson.skipped
  metadata := lesson.metadata
  id
  createdAt := now
  updatedAt := now

end Lesson

namespace IssuedLesson

/-- The first section of a kind. -/
def section? (lesson : IssuedLesson) (kind : Lesson.SectionKind) : Option Lesson.IssuedSection :=
  lesson.sections.find? fun part => part.kind = kind

/-- Whether there is a section of a kind. -/
def hasSection (lesson : IssuedLesson) (kind : Lesson.SectionKind) : Bool :=
  (lesson.section? kind).isSome

/-- The fields of the record. -/
def shape : Record.Shape where
  name := "GeneratedLesson"
  slots := [.required "id" Uuid.decode, .required "type" LessonKind.decode,
    .required "difficulty" Level.decode, .required "title" Record.text,
    .required "sections" (Record.list Lesson.IssuedSection.decode),
    .required "vocabulary" (Record.list Vocabulary.Item.decode),
    .required "grammarConcepts" (Record.list Grammar.Concept.decode),
    .required "learningObjectives" (Record.list Record.text),
    .defaulted "skippedSections" (Record.list Lesson.SkippedSection.decode),
    .required "metadata" Record.map, .required "createdAt" Timestamp.decode,
    .required "updatedAt" Timestamp.decode]

/-- The lesson of a record. -/
def decode : Record.Decoder IssuedLesson := fun v => do
  let found ← shape.read v
  return {
    id := ← found.required "id" Uuid.decode
    kind := ← found.required "type" LessonKind.decode
    level := ← found.required "difficulty" Level.decode
    title := ← found.required "title" Record.text
    sections := ← found.required "sections" (Record.list Lesson.IssuedSection.decode)
    vocabulary := ← found.required "vocabulary" (Record.list Vocabulary.Item.decode)
    concepts := ← found.required "grammarConcepts" (Record.list Grammar.Concept.decode)
    objectives := ← found.required "learningObjectives" (Record.list Record.text)
    skipped :=
      ← found.defaulted "skippedSections" (Record.list Lesson.SkippedSection.decode) []
    metadata := ← found.required "metadata" Record.map
    createdAt := ← found.required "createdAt" Timestamp.decode
    updatedAt := ← found.required "updatedAt" Timestamp.decode }

/-- The record of a lesson. -/
def encode (lesson : IssuedLesson) : Json :=
  .object <| (lesson.fields Lesson.IssuedSection.encode).insertAll
    [("createdAt", lesson.createdAt.encode), ("id", lesson.id.encode),
      ("updatedAt", lesson.updatedAt.encode)]

end IssuedLesson

end BilingualLessons
