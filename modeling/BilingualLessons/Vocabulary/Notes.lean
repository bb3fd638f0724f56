import BilingualLessons.Vocabulary.Item

namespace BilingualLessons.Vocabulary

/-!
# Notes on words

Some items carry a wrong part of speech.  Lessons go by the corrected one.

* `corrections` — the items whose part of speech is known to be wrong.
* `correctedPart` — the part of speech that an item has in lessons.
* `partLabel`, `partNote` — what a lesson shows for a part of speech.
* `Item.annotated` — an item as a lesson shows it.
-/

/-- Items whose part of speech is known to be wrong, with the right one. -/
def corrections : List (String × String) := [
  ("zdravej_001", "interjection"),
  ("dobro_utro_002", "phrase"),
  ("guten_tag", "phrase"),
  ("guten_abend", "phrase"),
  ("gute_nacht", "phrase"),
  ("auf_wiedersehen", "phrase"),
  ("bitte", "interjection"),
  ("entschuldigung", "interjection"),
  ("es_tut_mir_leid", "phrase"),
  ("a1_question_001", "pronoun"),
  ("a1_question_003", "adverb"),
  ("a1_question_004", "adverb"),
  ("a1_question_005", "adverb"),
  ("a1_question_006", "adverb"),
  ("a1_question_007", "adverb"),
  ("a1_question_008", "pronoun"),
  ("a1_question_009", "pronoun"),
  ("a1_question_010", "adverb"),
  ("a1_question_011", "adverb"),
  ("a1_question_012", "conjunction"),
  ("eins", "number"),
  ("zwei", "number"),
  ("drei", "number"),
  ("vier", "number"),
  ("funf", "number"),
  ("sechs", "number"),
  ("sieben", "number"),
  ("acht", "number"),
  ("neun", "number"),
  ("zehn", "number"),
  ("elf", "number"),
  ("zwoelf", "number"),
  ("dreizehn", "number"),
  ("zwanzig", "number"),
  ("a1_number_200", "number")]

/-- The part of speech of an item in lessons: the correction if there is one, and otherwise that of
    the data. The older name `numeral` stands for `number`. -/
def correctedPart (recorded id : String) : String :=
  match corrections.find? (·.1 == id) with
  | some (_, corrected) => corrected
  | none => if recorded = "numeral" then "number" else recorded

/-- The corrected part of speech of an item. -/
def Item.part (item : Item) : String := correctedPart item.partOfSpeech item.id

/-- The labels of the parts of speech. -/
def partLabels : List (String × String) := [
  ("noun", "Noun"),
  ("verb", "Verb"),
  ("adjective", "Adjective"),
  ("adverb", "Adverb"),
  ("pronoun", "Pronoun"),
  ("preposition", "Preposition"),
  ("conjunction", "Conjunction"),
  ("interjection", "Interjection"),
  ("number", "Numeral"),
  ("numeral", "Numeral"),
  ("article", "Article"),
  ("phrase", "Phrase")]

/-- What a lesson calls a part of speech. One without a label is shown as it is. -/
def partLabel (part : String) : String :=
  match partLabels.find? (·.1 == part) with
  | some (_, label) => label
  | none => part

/-- The note of a part of speech that has no note of its own. -/
def noNote : String := "No additional grammar information available."

/-- The notes on parts of speech. -/
def partNotes : List (String × String) := [
  ("interjection",
    "Interjections are words or phrases used to express emotion or greeting. They are " ++
    "often used at the beginning of sentences."),
  ("pronoun",
    "Pronouns replace nouns to avoid repetition. They must agree with the noun they " ++
    "replace in gender, number, and case."),
  ("adverb",
    "Adverbs describe verbs, adjectives, or other adverbs. They often answer questions " ++
    "like \"how?\", \"when?\", \"where?\", or \"to what extent?\"."),
  ("number",
    "Numerals represent numbers and can be cardinal (one, two) or ordinal (first, " ++
    "second). They are used for counting and ordering."),
  ("numeral",
    "Numerals represent numbers and can be cardinal (one, two) or ordinal (first, " ++
    "second). They are used for counting and ordering."),
  ("phrase",
    "Phrases are groups of words that function as a single unit in the syntax of a " ++
    "sentence. They often express greetings, farewells, or common expressions."),
  ("conjunction",
    "Conjunctions connect words, phrases, or clauses. They can be coordinating (and, but, " ++
    "or) or subordinating (because, although, if).")]

/-- The grammar note on a part of speech. -/
def partNote (part : String) : String :=
  match partNotes.find? (·.1 == part) with
  | some (_, note) => note
  | none => noNote

/-- The record of an item with the label of its corrected part of speech and the note on it. -/
def Item.annotated (item : Item) : Json :=
  .object <|
    (item.fields.insert "correctedPartOfSpeech" (.string (partLabel item.part))).insert
      "grammarInfo" (.string (partNote item.part))

end BilingualLessons.Vocabulary
