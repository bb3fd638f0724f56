import BilingualLessons.Record.Shape

namespace BilingualLessons.Vocabulary

/-!
# Vocabulary items

* `Item` — a word or phrase in both languages.
* `Item.decode`, `Item.encode` — its record; fields that it does not know are kept.
-/

/-- A word or phrase in both languages. -/
structure Item where
  id : String
  german : String
  bulgarian : String
  /-- The part of speech as the data has it, which need not be the name of one. -/
  partOfSpeech : String
  /-- The grade, one for the lowest level. -/
  difficulty : Nat := 1
  categories : List String := []
  metadata : Option Json := none
  /-- The fields of the record that have no place of their own. -/
  extra : Fields := []
deriving DecidableEq, Repr

namespace Item

/-- Whether the item is in a category. -/
def inCategory (item : Item) (category : String) : Bool :=
  item.categories.contains category

/-- The fields of an item's record. -/
def slots : List Record.Slot :=
  [.required "id" Record.text, .required "german" Record.text, .required "bulgarian" Record.text,
    .required "partOfSpeech" Record.text, .defaulted "difficulty" Record.octet,
    .defaulted "categories" (Record.list Record.text), .optional "metadata" Record.anything]

/-- The fields of an item's record, under its name. -/
def shape : Record.Shape := ⟨"VocabularyItem", slots⟩

/-- Whether a key has a place of its own in an item. -/
def isOwnKey (key : String) : Bool :=
  slots.any (·.isNamed key)

/-- The fields that have no place of their own. -/
def extraOf (fields : Fields) : Fields :=
  fields.filter fun field => !isOwnKey field.1

/-- The item of a record. Since it keeps unknown fields, only an object is one. -/
def decode : Record.Decoder Item
  | .object fields => do
    let found ← shape.fromFields fields
    return {
      id := ← found.required "id" Record.text
      german := ← found.required "german" Record.text
      bulgarian := ← found.required "bulgarian" Record.text
      partOfSpeech := ← found.required "partOfSpeech" Record.text
      difficulty := ← found.defaulted "difficulty" Record.octet 1
      categories := ← found.defaulted "categories" (Record.list Record.text) []
      metadata := ← found.optional "metadata" Record.anything
      extra := extraOf fields }
  | v => .error (.wrongType v (.record shape.name))

/-- The fields that an item has a place for, as its record shows them. -/
def ownFields (item : Item) : Fields :=
  [("bulgarian", .string item.bulgarian), ("categories", .ofStrings item.categories),
    ("difficulty", .ofNat item.difficulty), ("german", .string item.german),
    ("id", .string item.id)] ++
  (item.metadata.map fun v => ("metadata", v)).toList ++
  [("partOfSpeech", .string item.partOfSpeech)]

/-- The fields of an item's record: its own among those it keeps. -/
def fields (item : Item) : Fields := item.extra.insertAll item.ownFields

/-- The record of an item. -/
def encode (item : Item) : Json := .object item.fields

end Item

end BilingualLessons.Vocabulary
