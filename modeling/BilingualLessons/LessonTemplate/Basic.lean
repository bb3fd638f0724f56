import BilingualLessons.Level
import BilingualLessons.LessonKind
import BilingualLessons.LessonTemplate.Variable

namespace BilingualLessons

/-!
# Lesson templates

* `LessonTemplate` — a template body with the lessons it is for and the variables it expects.
* `LessonTemplate.covers` — the levels it is for.
* `LessonTemplate.uses` — the lessons it is for.
-/

/-- A template body with the lessons it is for and the variables it expects. -/
structure LessonTemplate where
  id : String
  name : String
  description : String
  kind : LessonKind
  lowest : Level
  highest : Level
  body : String
  declared : List Variable
  exampleData : Option Fields := none
deriving DecidableEq, Repr

namespace LessonTemplate

/-- Whether the template is for lessons of a level. -/
def covers (template : LessonTemplate) (level : Level) : Bool :=
  template.lowest ≤ level ∧ level ≤ template.highest

/-- The kinds and levels of lessons that the template is for. -/
def uses (template : LessonTemplate) : List (LessonKind × Level) :=
  (Level.range template.lowest template.highest).map fun level => (template.kind, level)

/-- The first variable of a name. -/
def declaration? (template : LessonTemplate) (name : String) : Option Variable :=
  template.declared.find? (·.name == name)

/-- The fields of a template's record. -/
def shape : Record.Shape where
  name := "LessonTemplate"
  slots := [.required "id" Record.text, .required "name" Record.text,
    .required "description" Record.text, .required "type" LessonKind.decode,
    .required "difficultyRange" (Record.pair Level.decode),
    (Record.Slot.required "template" Record.text).orNamed "templateBody",
    .required "variables" (Record.list Variable.decode), .optional "exampleData" Record.map]

/-- The template of a record. -/
def decode : Record.Decoder LessonTemplate := fun v => do
  let found ← shape.read v
  let id ← found.required "id" Record.text
  let name ← found.required "name" Record.text
  let description ← found.required "description" Record.text
  let kind ← found.required "type" LessonKind.decode
  let (lowest, highest) ← found.required "difficultyRange" (Record.pair Level.decode)
  let body ← found.required "template" Record.text
  let declared ← found.required "variables" (Record.list Variable.decode)
  let exampleData ← found.optional "exampleData" Record.map
  return { id, name, description, kind, lowest, highest, body, declared, exampleData }

/-- The record of a template. Example data is written only where there is some. -/
def encode (template : LessonTemplate) : Json :=
  .object <|
    [("description", .string template.description),
      ("difficultyRange", .array [template.lowest.encode, template.highest.encode])] ++
    (template.exampleData.map fun fields => ("exampleData", Json.object fields)).toList ++
    [("id", .string template.id), ("name", .string template.name),
      ("template", .string template.body), ("type", template.kind.encode),
      ("variables", .array (template.declared.map Variable.encode))]

end LessonTemplate

end BilingualLessons
