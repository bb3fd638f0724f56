import BilingualLessons.Record.Decode
import BilingualLessons.Text.Blank

namespace BilingualLessons

/-!
# Kinds of lesson

* `LessonKind` — what a lesson is about, which also picks how it is put together.
-/

/-- What a lesson is about. -/
inductive LessonKind where
  | vocabulary
  | grammar
  | mixed
  | cultural
  | contextual
deriving DecidableEq, Repr

namespace LessonKind

/-- The name of a kind. -/
def name : LessonKind → String
  | .vocabulary => "vocabulary"
  | .grammar => "grammar"
  | .mixed => "mixed"
  | .cultural => "cultural"
  | .contextual => "contextual"

/-- Every name of a kind. Cultural lessons have two. -/
def names : List (String × LessonKind) :=
  [("vocabulary", .vocabulary), ("grammar", .grammar), ("mixed", .mixed), ("cultural", .cultural),
    ("culture", .cultural), ("contextual", .contextual)]

/-- The kind of a name; blanks around it and its case do not count. -/
def parse (s : String) : Except String LessonKind :=
  let name := String.ofList ((Text.trim s.toList).map Char.toLower)
  match names.find? (·.1 == name) with
  | some (_, kind) => .ok kind
  | none => .error s!"unknown lesson type: {name}"

/-- The kind of exactly this name. -/
def decode : Record.Decoder LessonKind := Record.variant names

/-- The name as a value. -/
def encode (kind : LessonKind) : Json := .string kind.name

end LessonKind

end BilingualLessons
