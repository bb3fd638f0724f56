import BilingualLessons.Record.Shape
import BilingualLessons.Uuid

namespace BilingualLessons.Lesson

/-!
# Sections of a lesson

* `SectionKind` — what a section is for.
* `Section` — a rendered part of a lesson.
* `SkippedSection` — a part that was left out, and why.
* `IssuedSection` — a section under an id.
-/

/-- What a section is for. -/
inductive SectionKind where
  | introduction
  | vocabulary
  | grammar
  | exercise
  | summary
  | cultural
deriving DecidableEq, Repr

namespace SectionKind

/-- Every kind, in the order of its declaration. -/
def all : List SectionKind :=
  [.introduction, .vocabulary, .grammar, .exercise, .summary, .cultural]

/-- The name of a kind. -/
def name : SectionKind → String
  | .introduction => "introduction"
  | .vocabulary => "vocabulary"
  | .grammar => "grammar"
  | .exercise => "exercise"
  | .summary => "summary"
  | .cultural => "cultural"

/-- The names of the kinds. -/
def names : List (String × SectionKind) := all.map fun kind => (kind.name, kind)

/-- The kind of exactly this name. -/
def decode : Record.Decoder SectionKind := Record.variant names

/-- The name as a value. -/
def encode (kind : SectionKind) : Json := .string kind.name

end SectionKind

/-- A rendered part of a lesson. -/
structure Section where
  title : String
  content : String
  kind : SectionKind
  metadata : Fields := []
deriving DecidableEq, Repr

namespace Section

/-- The fields of a section's record. -/
def fields (part : Section) : Fields :=
  [("content", .string part.content), ("metadata", .object part.metadata),
    ("title", .string part.title), ("type", part.kind.encode)]

/-- The record of a section. -/
def encode (part : Section) : Json := .object part.fields

end Section

/-- A part that was left out, and why. -/
structure SkippedSection where
  name : String
  reason : String
deriving DecidableEq, Repr

namespace SkippedSection

/-- The words for what was left out. -/
def message (skipped : SkippedSection) : String := s!"{skipped.name}: {skipped.reason}"

/-- The fields of the record. -/
def shape : Record.Shape where
  name := "SkippedSection"
  slots := [.required "section" Record.text, .required "reason" Record.text]

/-- What a record says was left out. -/
def decode : Record.Decoder SkippedSection := fun v => do
  let found ← shape.read v
  return {
    name := ← found.required "section" Record.text
    reason := ← found.required "reason" Record.text }

/-- The record of what was left out. -/
def encode (skipped : SkippedSection) : Json :=
  .object [("reason", .string skipped.reason), ("section", .string skipped.name)]

end SkippedSection

/-- A section under an id. -/
structure IssuedSection extends Section where
  id : Uuid
deriving DecidableEq, Repr

namespace IssuedSection

/-- The fields of the record. -/
def shape : Record.Shape where
  name := "GeneratedLessonSection"
  slots := [.required "id" Uuid.decode, .required "title" Record.text,
    .required "content" Record.text, .required "type" SectionKind.decode,
    .defaulted "metadata" Record.map]

/-- The section of a record. -/
def decode : Record.Decoder IssuedSection := fun v => do
  let found ← shape.read v
  return {
    id := ← found.required "id" Uuid.decode
    title := ← found.required "title" Record.text
    content := ← found.required "content" Record.text
    kind := ← found.required "type" SectionKind.decode
    metadata := ← found.defaulted "metadata" Record.map [] }

/-- The record of a section. -/
def encode (part : IssuedSection) : Json :=
  .object (part.fields.insert "id" part.id.encode)

end IssuedSection

end BilingualLessons.Lesson
