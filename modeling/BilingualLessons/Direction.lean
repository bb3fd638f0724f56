import BilingualLessons.Record.Decode

namespace BilingualLessons

/-!
# Learning directions

* `Language` — the two languages.
* `Direction` — which of them the learner reads and which is learned.
* `Direction.entries` — what every section of a lesson can say about it.
-/

/-- The two languages of a tandem. -/
inductive Language where
  | german
  | bulgarian
deriving DecidableEq, Repr

/-- The code of a language. -/
def Language.code : Language → String
  | .german => "de"
  | .bulgarian => "bg"

/-- The English name of a language. -/
def Language.name : Language → String
  | .german => "German"
  | .bulgarian => "Bulgarian"

/-- From the language that the learner reads to the one that is learned. -/
inductive Direction where
  | germanToBulgarian
  | bulgarianToGerman
deriving DecidableEq, Repr

namespace Direction

/-- The other direction. -/
def opposite : Direction → Direction
  | .germanToBulgarian => .bulgarianToGerman
  | .bulgarianToGerman => .germanToBulgarian

/-- The language that the learner reads. -/
def source : Direction → Language
  | .germanToBulgarian => .german
  | .bulgarianToGerman => .bulgarian

/-- The language that is learned. -/
def target (direction : Direction) : Language := direction.opposite.source

/-- An arrow that points from German to Bulgarian or back. -/
def arrow : Direction → String
  | .germanToBulgarian => "→"
  | .bulgarianToGerman => "←"

/-- The direction in short. -/
def label : Direction → String
  | .germanToBulgarian => "DE→BG"
  | .bulgarianToGerman => "BG→DE"

/-- The name of a direction in a record. -/
def name : Direction → String
  | .germanToBulgarian => "DE_BG"
  | .bulgarianToGerman => "BG_DE"

/-- The names of the directions. -/
def names : List (String × Direction) :=
  [("DE_BG", .germanToBulgarian), ("BG_DE", .bulgarianToGerman)]

/-- The values that every section of a lesson has at hand. -/
def entries (direction : Direction) : List (String × Json) :=
  [("sourceLanguage", .string direction.source.code),
    ("targetLanguage", .string direction.target.code),
    ("sourceLanguageName", .string direction.source.name),
    ("targetLanguageName", .string direction.target.name),
    ("directionText", .string direction.label),
    ("directionArrow", .string direction.arrow)]

/-- The direction of exactly this name. -/
def decode : Record.Decoder Direction := Record.variant names

/-- The name as a value. -/
def encode (direction : Direction) : Json := .string direction.name

end Direction

instance : Inhabited Direction := ⟨.germanToBulgarian⟩

end BilingualLessons
