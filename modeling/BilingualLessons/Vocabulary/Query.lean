import BilingualLessons.Vocabulary.Item

namespace BilingualLessons.Vocabulary

/-!
# Questions to a vocabulary

* `Search` — a search for words, page by page.
* `Filter` — a filter for categories and samples.
* `Page` — a page of the matches of a search.
-/

/-- A search for words. -/
structure Search where
  /-- A part of the word in either language, in any case. -/
  query : Option String := none
  partOfSpeech : Option String := none
  difficulty : Option Nat := none
  /-- Items in any of the categories; without categories, all items. -/
  categories : List String := []
  limit : Option Nat := none
  offset : Nat := 0
deriving DecidableEq, Repr

namespace Search

/-- The fields of the record. -/
def shape : Record.Shape where
  name := "VocabularySearch"
  slots := [.optional "query" Record.text, .optional "partOfSpeech" Record.text,
    .optional "difficulty" Record.octet, .defaulted "categories" (Record.list Record.text),
    .optional "limit" Record.count, .defaulted "offset" Record.count]

/-- The search of a record. -/
def decode : Record.Decoder Search := fun v => do
  let found ← shape.read v
  return {
    query := ← found.optional "query" Record.text
    partOfSpeech := ← found.optional "partOfSpeech" Record.text
    difficulty := ← found.optional "difficulty" Record.octet
    categories := ← found.defaulted "categories" (Record.list Record.text) []
    limit := ← found.optional "limit" Record.count
    offset := ← found.defaulted "offset" Record.count 0 }

/-- The record of a search. -/
def encode (search : Search) : Json :=
  .object [("categories", .ofStrings search.categories),
    ("difficulty", .ofOption .ofNat search.difficulty), ("limit", .ofOption .ofNat search.limit),
    ("offset", .ofNat search.offset), ("partOfSpeech", .ofOption .string search.partOfSpeech),
    ("query", .ofOption .string search.query)]

end Search

/-- A filter for the look-up of a category and for samples. -/
structure Filter where
  difficulty : Option Nat := none
  category : Option String := none
  limit : Option Nat := none
deriving DecidableEq, Repr

namespace Filter

/-- The fields of the record. -/
def shape : Record.Shape where
  name := "VocabularyFilter"
  slots := [.optional "difficulty" Record.octet, .optional "category" Record.text,
    .optional "limit" Record.count]

/-- The filter of a record. -/
def decode : Record.Decoder Filter := fun v => do
  let found ← shape.read v
  return {
    difficulty := ← found.optional "difficulty" Record.octet
    category := ← found.optional "category" Record.text
    limit := ← found.optional "limit" Record.count }

/-- The record of a filter. -/
def encode (filter : Filter) : Json :=
  .object [("category", .ofOption .string filter.category),
    ("difficulty", .ofOption .ofNat filter.difficulty), ("limit", .ofOption .ofNat filter.limit)]

end Filter

/-- A page of the matches of a search. -/
structure Page where
  items : List Item
  /-- The number of all matches. -/
  total : Nat
  hasMore : Bool
deriving DecidableEq, Repr

end BilingualLessons.Vocabulary
