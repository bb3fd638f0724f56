import BilingualLessons.LessonTemplate.Contract
import BilingualLessons.Loading.Repository
import BilingualLessons.Text.LetterCase

namespace BilingualLessons.Grammar

/-!
# The concepts of a repository

* `Criteria` — what a concept is sought by.
* `Concept.fallback` — the built-in concept.
* `conceptRepository` — a repository of concepts.
* `Catalogue.query`, `Catalogue.byId?` — which concepts answer.
-/

/-- What a concept is sought by. -/
structure Criteria where
  level : Option Level := none
  partOfSpeech : Option PartOfSpeech := none
  limit : Option Nat := none
  conceptType : Option String := none
deriving DecidableEq, Repr

namespace Criteria

/-- The fields of the record. -/
def shape : Record.Shape where
  name := "GrammarQueryCriteria"
  slots := [.optionalInObject "difficulty" Level.decode,
    .optionalInObject "partOfSpeech" PartOfSpeech.decode, .optionalInObject "limit" Record.count,
    .optionalInObject "conceptType" Record.text]

/-- The criteria of a record. -/
def decode : Record.Decoder Criteria := fun v => do
  let found ← shape.read v
  return {
    level := ← found.optional "difficulty" Level.decode
    partOfSpeech := ← found.optional "partOfSpeech" PartOfSpeech.decode
    limit := ← found.optional "limit" Record.count
    conceptType := ← found.optional "conceptType" Record.text }

/-- The record of criteria. -/
def encode (criteria : Criteria) : Json :=
  .object [("conceptType", .ofOption .string criteria.conceptType),
    ("difficulty", .ofOption Level.encode criteria.level),
    ("limit", .ofOption .ofNat criteria.limit),
    ("partOfSpeech", .ofOption PartOfSpeech.encode criteria.partOfSpeech)]

/-- Whether a concept is of a type: the type stands in its id or among its related concepts. -/
def isOfType (concept : Concept) (wanted : String) : Bool :=
  Text.occursIn wanted concept.id || concept.related.contains wanted

/-- Whether a concept meets every criterion. -/
def admits (criteria : Criteria) (concept : Concept) : Bool :=
  criteria.level.all (concept.level = ·) && criteria.partOfSpeech.all concept.appliesTo &&
    criteria.conceptType.all (isOfType concept)

/-- The number of concepts asked for: one, unless the limit is larger than zero. -/
def wanted (criteria : Criteria) : Nat :=
  match criteria.limit with
  | some (n + 1) => n + 1
  | _ => 1

end Criteria

namespace Concept

/-- The id of the built-in concept. -/
def fallbackId : String := "fallback-article-usage"

/-- The built-in concept, on the articles of German. -/
def fallback : Concept where
  id := fallbackId
  name := ⟨"Употреба на членове", "Artikelgebrauch"⟩
  description := ⟨"Основна употреба на членове в немски език",
    "Grundlegender Artikelgebrauch im Deutschen"⟩
  level := .a1
  partsOfSpeech := [.noun]
  culturalContext := {
    bulgarianPerspective :=
      "В български няма членове, което създава трудности при изучаването на немски."
    germanPerspective :=
      "Im Deutschen sind Artikel obligatorisch, was für bulgarische Lernende ungewohnt ist."
    explanation := {
      bgToDe :=
        "В български няма членове. В немски трябва да използвате der, die, das според рода."
      deToBg :=
        "Im Bulgarischen gibt es keine Artikel. Substantive werden ohne Artikel verwendet." } }
  examples := [{
    bulgarian := "Книгата е на масата."
    german := "Das Buch ist auf dem Tisch."
    explanationBgToDe := "В български няма членове. В немски се използват der/die/das."
    explanationDeToBg := "Im Deutschen gibt es Artikel (das, dem), im Bulgarischen nicht." }]
  mistakes := {
    bgToDe := ["Забравяне на членове", "Грешен род"]
    deToBg := ["Добавяне на несъществуващи членове"] }
  related := ["noun-gender"]

/-- The concept of a raw record, if it keeps all rules. -/
def ofRecord (record : Loading.RawRecord) : Except DataFault Concept := do
  let concept ← (decode record.value).mapError (.malformedRecord record.origin)
  concept.validate
  return concept

/-- Accepts a valid concept. -/
def judge : Loading.Judge Concept := fun _ record => ofRecord record

end Concept

/-- The repository of the concepts of a source. -/
def conceptRepository (source : Loading.Source) : Loading.Repository Concept where
  source
  judge := Concept.judge
  fallback := Concept.fallback

/-- Concepts that a lesson can be about. -/
abbrev Catalogue := Loading.Contents Concept

namespace Catalogue

/-- The first concepts that meet the criteria, in the order in which they were loaded. -/
def query (catalogue : Catalogue) (criteria : Criteria) : List Concept :=
  (catalogue.records.filter criteria.admits).take criteria.wanted

/-- The first concept of an id. -/
def byId? (catalogue : Catalogue) (id : String) : Option Concept :=
  catalogue.records.find? (·.id == id)

end Catalogue

end BilingualLessons.Grammar
