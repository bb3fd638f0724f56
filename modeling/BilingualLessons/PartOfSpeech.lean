import BilingualLessons.Record.Decode
import BilingualLessons.Text.Blank

namespace BilingualLessons

/-!
# Parts of speech

* `PartOfSpeech` — the classes of words that concepts and requests name.
-/

/-- A class of words. -/
inductive PartOfSpeech where
  | noun
  | verb
  | adjective
  | adverb
  | preposition
  | conjunction
  | pronoun
  | interjection
  | article
  | number
  | phrase
deriving DecidableEq, Repr

namespace PartOfSpeech

/-- Every class, in the order of its declaration. -/
def all : List PartOfSpeech :=
  [.noun, .verb, .adjective, .adverb, .preposition, .conjunction, .pronoun, .interjection,
    .article, .number, .phrase]

/-- The name of a class. -/
def name : PartOfSpeech → String
  | .noun => "noun"
  | .verb => "verb"
  | .adjective => "adjective"
  | .adverb => "adverb"
  | .preposition => "preposition"
  | .conjunction => "conjunction"
  | .pronoun => "pronoun"
  | .interjection => "interjection"
  | .article => "article"
  | .number => "number"
  | .phrase => "phrase"

/-- Every name of a class. Numbers have two. -/
def names : List (String × PartOfSpeech) :=
  [("noun", .noun), ("verb", .verb), ("adjective", .adjective), ("adverb", .adverb),
    ("preposition", .preposition), ("conjunction", .conjunction), ("pronoun", .pronoun),
    ("interjection", .interjection), ("article", .article), ("number", .number),
    ("numeral", .number), ("phrase", .phrase)]

/-- The class of a name; blanks around it and its case do not count. -/
def parse (s : String) : Except String PartOfSpeech :=
  let name := String.ofList ((Text.trim s.toList).map Char.toLower)
  match names.find? (·.1 == name) with
  | some (_, part) => .ok part
  | none => .error s!"Invalid part of speech: {s}"

/-- The class of exactly this name. -/
def decode : Record.Decoder PartOfSpeech := Record.variant names

/-- The name as a value. -/
def encode (part : PartOfSpeech) : Json := .string part.name

end PartOfSpeech

end BilingualLessons
