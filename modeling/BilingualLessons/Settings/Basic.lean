import BilingualLessons.Record.Shape
import BilingualLessons.Template.Render

namespace BilingualLessons

/-!
# Settings

Every setting has a default.

* `GenerationSettings` — how many words a lesson has, and the like.
* `DataSettings`, `RenderSettings`, `LoggingSettings` — the other groups.
* `Settings` — all of them.
-/

/-- Where the data are. -/
structure DataSettings where
  templatesDir : String := "data/templates"
  grammarFile : String := "data/cultural-grammar.json"
  vocabularyFile : String := "data/vocabulary.json"
deriving DecidableEq, Repr

namespace DataSettings

/-- The fields of the record. -/
def shape : Record.Shape where
  name := "DataConfig"
  slots := [.defaulted "templates_dir" Record.path, .defaulted "grammar_file" Record.path,
    .defaulted "vocabulary_file" Record.path]

/-- The settings of a record. -/
def decode : Record.Decoder DataSettings := fun v => do
  let found ← shape.read v
  let default : DataSettings := {}
  return {
    templatesDir := ← found.defaulted "templates_dir" Record.path default.templatesDir
    grammarFile := ← found.defaulted "grammar_file" Record.path default.grammarFile
    vocabularyFile := ← found.defaulted "vocabulary_file" Record.path default.vocabularyFile }

/-- The record of settings. -/
def encode (settings : DataSettings) : Json :=
  .object [("grammar_file", .string settings.grammarFile),
    ("templates_dir", .string settings.templatesDir),
    ("vocabulary_file", .string settings.vocabularyFile)]

end DataSettings

/-- How many words a lesson has, and the like. -/
structure GenerationSettings where
  /-- The words of a thematic lesson where neither the request nor the options name a number. -/
  defaultItemLimit : Nat := 10
  /-- The words of a review section. -/
  reviewSampleSize : Nat := 5
  /-- The words of a grammar lesson. -/
  grammarExampleCount : Nat := 8
  /-- How many of them its practice section uses. -/
  grammarPracticeCount : Nat := 5
  /-- The words of a contextual lesson where the options name no number. -/
  contextualItemLimit : Nat := 8
  /-- The category of a contextual lesson where the request names none. -/
  defaultCategory : String := "travel"
  /-- The seed of random choices. -/
  selectionSeed : Option Nat := none
deriving DecidableEq, Repr

namespace GenerationSettings

/-- The fields of the record. -/
def shape : Record.Shape where
  name := "GenerationConfig"
  slots := [.defaulted "default_item_limit" Record.count,
    .defaulted "review_sample_size" Record.count, .defaulted "grammar_example_count" Record.count,
    .defaulted "grammar_practice_count" Record.count,
    .defaulted "contextual_item_limit" Record.count, .defaulted "default_category" Record.text,
    .optional "selection_seed" Record.seed]

/-- The settings of a record. -/
def decode : Record.Decoder GenerationSettings := fun v => do
  let found ← shape.read v
  let default : GenerationSettings := {}
  return {
    defaultItemLimit :=
      ← found.defaulted "default_item_limit" Record.count default.defaultItemLimit
    reviewSampleSize :=
      ← found.defaulted "review_sample_size" Record.count default.reviewSampleSize
    grammarExampleCount :=
      ← found.defaulted "grammar_example_count" Record.count default.grammarExampleCount
    grammarPracticeCount :=
      ← found.defaulted "grammar_practice_count" Record.count default.grammarPracticeCount
    contextualItemLimit :=
      ← found.defaulted "contextual_item_limit" Record.count default.contextualItemLimit
    defaultCategory := ← found.defaulted "default_category" Record.text default.defaultCategory
    selectionSeed := ← found.optional "selection_seed" Record.seed }

/-- The record of settings. -/
def encode (settings : GenerationSettings) : Json :=
  .object [("contextual_item_limit", .ofNat settings.contextualItemLimit),
    ("default_category", .string settings.defaultCategory),
    ("default_item_limit", .ofNat settings.defaultItemLimit),
    ("grammar_example_count", .ofNat settings.grammarExampleCount),
    ("grammar_practice_count", .ofNat settings.grammarPracticeCount),
    ("review_sample_size", .ofNat settings.reviewSampleSize),
    ("selection_seed", .ofOption .ofNat settings.selectionSeed)]

end GenerationSettings

/-- How templates are rendered. -/
structure RenderSettings where
  maxNesting : Nat := Template.defaultNesting
deriving DecidableEq, Repr

namespace RenderSettings

/-- The fields of the record. -/
def shape : Record.Shape where
  name := "RenderConfig"
  slots := [.defaulted "max_nesting_depth" Record.count]

/-- The settings of a record. -/
def decode : Record.Decoder RenderSettings := fun v => do
  let found ← shape.read v
  return {
    maxNesting := ← found.defaulted "max_nesting_depth" Record.count Template.defaultNesting }

/-- The record of settings. -/
def encode (settings : RenderSettings) : Json :=
  .object [("max_nesting_depth", .ofNat settings.maxNesting)]

end RenderSettings

/-- What is logged, and where to. -/
structure LoggingSettings where
  level : String := "info"
  directory : Option String := none
deriving DecidableEq, Repr

namespace LoggingSettings

/-- The fields of the record. -/
def shape : Record.Shape where
  name := "LoggingConfig"
  slots := [.defaulted "level" Record.text, .optional "log_dir" Record.path]

/-- The settings of a record. -/
def decode : Record.Decoder LoggingSettings := fun v => do
  let found ← shape.read v
  return {
    level := ← found.defaulted "level" Record.text "info"
    directory := ← found.optional "log_dir" Record.path }

/-- The record of settings. -/
def encode (settings : LoggingSettings) : Json :=
  .object [("level", .string settings.level),
    ("log_dir", .ofOption .string settings.directory)]

end LoggingSettings

/-- All settings. -/
structure Settings where
  data : DataSettings := {}
  generation : GenerationSettings := {}
  render : RenderSettings := {}
  logging : LoggingSettings := {}
deriving DecidableEq, Repr

namespace Settings

/-- The fields of the record. -/
def shape : Record.Shape where
  name := "LessonConfig"
  slots := [.defaulted "data" DataSettings.decode,
    .defaulted "generation" GenerationSettings.decode,
    .defaulted "render" RenderSettings.decode, .defaulted "logging" LoggingSettings.decode]

/-- The settings of a record. -/
def decode : Record.Decoder Settings := fun v => do
  let found ← shape.read v
  return {
    data := ← found.defaulted "data" DataSettings.decode {}
    generation := ← found.defaulted "generation" GenerationSettings.decode {}
    render := ← found.defaulted "render" RenderSettings.decode {}
    logging := ← found.defaulted "logging" LoggingSettings.decode {} }

/-- The record of settings. -/
def encode (settings : Settings) : Json :=
  .object [("data", settings.data.encode), ("generation", settings.generation.encode),
    ("logging", settings.logging.encode), ("render", settings.render.encode)]

end Settings

end BilingualLessons
