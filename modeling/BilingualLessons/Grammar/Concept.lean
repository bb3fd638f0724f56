import BilingualLessons.Level
import BilingualLessons.PartOfSpeech
import BilingualLessons.Record.Shape

namespace BilingualLessons.Grammar

/-!
# Grammar concepts

One grammatical rule, explained in both languages.

* `BilingualText` — a text in both languages.
* `Explanation`, `CulturalContext`, `Example`, `Mistakes` — the parts of a concept.
* `Concept` — a rule with its explanations and examples.
-/

/-- A text in both languages. A half that is absent reads as the empty text. -/
structure BilingualText where
  bulgarian : String := ""
  german : String := ""
deriving DecidableEq, Repr

namespace BilingualText

/-- Whether neither half is blank. -/
def isComplete (text : BilingualText) : Bool :=
  !Text.isBlankText text.bulgarian && !Text.isBlankText text.german

/-- The fields of the record. -/
def shape : Record.Shape where
  name := "BilingualText"
  slots := [.defaulted "bulgarian" Record.text, .defaulted "german" Record.text]

/-- The text of a record. -/
def decode : Record.Decoder BilingualText := fun v => do
  let found ← shape.read v
  return {
    bulgarian := ← found.defaulted "bulgarian" Record.text ""
    german := ← found.defaulted "german" Record.text "" }

/-- The record of a text. -/
def encode (text : BilingualText) : Json :=
  .object [("bulgarian", .string text.bulgarian), ("german", .string text.german)]

end BilingualText

/-- What learners of either language should know of the other one. -/
structure Explanation where
  bgToDe : String
  deToBg : String
deriving DecidableEq, Repr

namespace Explanation

/-- The fields of the record. -/
def shape : Record.Shape where
  name := "CrossLinguisticExplanation"
  slots := [.required "bgToDe" Record.text, .required "deToBg" Record.text]

/-- The explanation of a record. -/
def decode : Record.Decoder Explanation := fun v => do
  let found ← shape.read v
  return {
    bgToDe := ← found.required "bgToDe" Record.text
    deToBg := ← found.required "deToBg" Record.text }

/-- The record of an explanation. -/
def encode (explanation : Explanation) : Json :=
  .object [("bgToDe", .string explanation.bgToDe), ("deToBg", .string explanation.deToBg)]

end Explanation

/-- How speakers of either language see the rule. -/
structure CulturalContext where
  bulgarianPerspective : String
  germanPerspective : String
  explanation : Explanation
deriving DecidableEq, Repr

namespace CulturalContext

/-- The fields of the record. -/
def shape : Record.Shape where
  name := "CulturalContext"
  slots := [.required "bulgarianPerspective" Record.text,
    .required "germanPerspective" Record.text,
    .required "crossLinguisticExplanation" Explanation.decode]

/-- The context of a record. -/
def decode : Record.Decoder CulturalContext := fun v => do
  let found ← shape.read v
  return {
    bulgarianPerspective := ← found.required "bulgarianPerspective" Record.text
    germanPerspective := ← found.required "germanPerspective" Record.text
    explanation := ← found.required "crossLinguisticExplanation" Explanation.decode }

/-- The record of a context. -/
def encode (context : CulturalContext) : Json :=
  .object [("bulgarianPerspective", .string context.bulgarianPerspective),
    ("crossLinguisticExplanation", context.explanation.encode),
    ("germanPerspective", .string context.germanPerspective)]

end CulturalContext

/-- An example in both languages with an explanation for either direction. What is absent reads as
    the empty text. -/
structure Example where
  bulgarian : String := ""
  german : String := ""
  explanationBgToDe : String := ""
  explanationDeToBg : String := ""
deriving DecidableEq, Repr

namespace Example

/-- The fields of the record. -/
def shape : Record.Shape where
  name := "GrammarExample"
  slots := [.defaulted "bulgarian" Record.text, .defaulted "german" Record.text,
    .defaulted "explanationBgToDe" Record.text, .defaulted "explanationDeToBg" Record.text]

/-- The example of a record. -/
def decode : Record.Decoder Example := fun v => do
  let found ← shape.read v
  return {
    bulgarian := ← found.defaulted "bulgarian" Record.text ""
    german := ← found.defaulted "german" Record.text ""
    explanationBgToDe := ← found.defaulted "explanationBgToDe" Record.text ""
    explanationDeToBg := ← found.defaulted "explanationDeToBg" Record.text "" }

/-- The record of an example. -/
def encode (ex : Example) : Json :=
  .object [("bulgarian", .string ex.bulgarian),
    ("explanationBgToDe", .string ex.explanationBgToDe),
    ("explanationDeToBg", .string ex.explanationDeToBg), ("german", .string ex.german)]

end Example

/-- What learners of either language get wrong. -/
structure Mistakes where
  bgToDe : List String := []
  deToBg : List String := []
deriving DecidableEq, Repr

namespace Mistakes

/-- The fields of the record. -/
def shape : Record.Shape where
  name := "CommonMistakes"
  slots := [.required "bgToDe" (Record.list Record.text),
    .required "deToBg" (Record.list Record.text)]

/-- The mistakes of a record. -/
def decode : Record.Decoder Mistakes := fun v => do
  let found ← shape.read v
  return {
    bgToDe := ← found.required "bgToDe" (Record.list Record.text)
    deToBg := ← found.required "deToBg" (Record.list Record.text) }

/-- The record of mistakes. -/
def encode (mistakes : Mistakes) : Json :=
  .object [("bgToDe", .ofStrings mistakes.bgToDe), ("deToBg", .ofStrings mistakes.deToBg)]

end Mistakes

/-- A grammatical rule with its explanations and examples. -/
structure Concept where
  id : String
  name : BilingualText
  description : BilingualText
  level : Level
  partsOfSpeech : List PartOfSpeech
  culturalContext : CulturalContext
  examples : List Example
  mistakes : Mistakes
  related : List String
  metadata : Fields := []
deriving DecidableEq, Repr

namespace Concept

/-- Whether the rule is about a class of words. -/
def appliesTo (concept : Concept) (part : PartOfSpeech) : Bool :=
  concept.partsOfSpeech.contains part

/-- The class of words that the rule is about first of all. -/
def primaryPart? (concept : Concept) : Option PartOfSpeech :=
  concept.partsOfSpeech.head?

/-- The fields of the record. -/
def shape : Record.Shape where
  name := "CulturalGrammarConcept"
  slots := [.required "id" Record.text, .required "name" BilingualText.decode,
    .required "description" BilingualText.decode, .required "difficulty" Level.decode,
    .required "partOfSpeech" (Record.list PartOfSpeech.decode),
    .required "culturalContext" CulturalContext.decode,
    .required "examples" (Record.list Example.decode),
    .required "commonMistakes" Mistakes.decode,
    .required "relatedConcepts" (Record.list Record.text), .defaulted "metadata" Record.map]

/-- The concept of a record. -/
def decode : Record.Decoder Concept := fun v => do
  let found ← shape.read v
  return {
    id := ← found.required "id" Record.text
    name := ← found.required "name" BilingualText.decode
    description := ← found.required "description" BilingualText.decode
    level := ← found.required "difficulty" Level.decode
    partsOfSpeech := ← found.required "partOfSpeech" (Record.list PartOfSpeech.decode)
    culturalContext := ← found.required "culturalContext" CulturalContext.decode
    examples := ← found.required "examples" (Record.list Example.decode)
    mistakes := ← found.required "commonMistakes" Mistakes.decode
    related := ← found.required "relatedConcepts" (Record.list Record.text)
    metadata := ← found.defaulted "metadata" Record.map [] }

/-- The record of a concept. -/
def encode (concept : Concept) : Json :=
  .object [("commonMistakes", concept.mistakes.encode),
    ("culturalContext", concept.culturalContext.encode),
    ("description", concept.description.encode), ("difficulty", concept.level.encode),
    ("examples", .array (concept.examples.map Example.encode)), ("id", .string concept.id),
    ("metadata", .object concept.metadata), ("name", concept.name.encode),
    ("partOfSpeech", .array (concept.partsOfSpeech.map PartOfSpeech.encode)),
    ("relatedConcepts", .ofStrings concept.related)]

end Concept

/-! ### Rules -/

/-- A rule that a concept can break. -/
inductive ConceptRule where
  | idRequired
  | nameComplete
  | descriptionComplete
  | partsOfSpeechRequired
  | examplesRequired
  | exampleComplete (index : Nat)
deriving DecidableEq, Repr

/-- The words for a broken rule. -/
def ConceptRule.message : ConceptRule → String
  | .idRequired => "id is required"
  | .nameComplete => "name must have bulgarian and german"
  | .descriptionComplete => "description must have bulgarian and german"
  | .partsOfSpeechRequired => "partOfSpeech must be a non-empty array"
  | .examplesRequired => "examples must be a non-empty array"
  | .exampleComplete index => s!"example {index} must have bulgarian and german"

/-- Whether neither half of an example is blank. -/
def Example.isComplete (ex : Example) : Bool :=
  !Text.isBlankText ex.bulgarian && !Text.isBlankText ex.german

/-- The rules that a concept breaks, in the order of a message. -/
def Concept.brokenRules (concept : Concept) : List ConceptRule :=
  (if Text.isBlankText concept.id then [.idRequired] else []) ++
  (if concept.name.isComplete then [] else [.nameComplete]) ++
  (if concept.description.isComplete then [] else [.descriptionComplete]) ++
  (if concept.partsOfSpeech.isEmpty then [.partsOfSpeechRequired] else []) ++
  (if concept.examples.isEmpty then [.examplesRequired] else []) ++
  concept.examples.zipIdx.filterMap fun (ex, i) =>
    if ex.isComplete then none else some (.exampleComplete i)

end BilingualLessons.Grammar
