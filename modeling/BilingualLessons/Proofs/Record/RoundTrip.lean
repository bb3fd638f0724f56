import BilingualLessons.Proofs.Record.Concepts
import BilingualLessons.Proofs.Record.Items
import BilingualLessons.Proofs.Record.Requests
import BilingualLessons.Proofs.Record.Templates

namespace BilingualLessons

open Record

/-!
# Records written back

Whichever way a record is written, with its fields in an object or in an array, under second names,
with fields left out or `null` and with others that nothing knows: what it decodes to has a record
of its own, and this one decodes to the same.

* `records_round_trip` — for templates, concepts, requests, words and questions to a vocabulary.
-/

/-- **Round trip.** What a record decodes to is read back from the record that it is written as. An
    item keeps exactly the fields of its record that have no place of their own, and it is written
    with all of them. -/
theorem records_round_trip :
    RoundTrips LessonTemplate.decode LessonTemplate.encode ∧
    RoundTrips Variable.decode Variable.encode ∧
    RoundTrips Grammar.Concept.decode Grammar.Concept.encode ∧
    RoundTrips Grammar.Criteria.decode Grammar.Criteria.encode ∧
    RoundTrips Lesson.Criteria.decode Lesson.Criteria.encode ∧
    RoundTrips Lesson.Request.decode Lesson.Request.encode ∧
    RoundTrips Lesson.Options.decode Lesson.Options.encode ∧
    RoundTrips Vocabulary.Search.decode Vocabulary.Search.encode ∧
    RoundTrips Vocabulary.Filter.decode Vocabulary.Filter.encode ∧
    RoundTrips Vocabulary.Item.decode Vocabulary.Item.encode ∧
    ∀ fields item, Vocabulary.Item.decode (.object fields) = .ok item →
      (∀ field ∈ item.extra, field.1 ∉ Vocabulary.Item.ownKeys) ∧
      item.extra = fields.filter (·.1 ∉ Vocabulary.Item.ownKeys) ∧
      ∃ written, item.encode = .object written ∧
        written.filter (·.1 ∉ Vocabulary.Item.ownKeys) = item.extra := by
  refine ⟨LessonTemplate.hasRecord_of_decode.roundTrips fun _ => LessonTemplate.decode_encode,
    Variable.hasRecord_of_decode.roundTrips fun _ => Variable.decode_encode,
    fun _ concept _ => concept.decode_encode,
    Grammar.Criteria.hasRecord_of_decode.roundTrips fun _ => Grammar.Criteria.decode_encode,
    Lesson.Criteria.hasRecord_of_decode.roundTrips fun _ => Lesson.Criteria.decode_encode,
    Lesson.Request.hasRecord_of_decode.roundTrips fun _ => Lesson.Request.decode_encode,
    Lesson.Options.hasRecord_of_decode.roundTrips fun _ => Lesson.Options.decode_encode,
    Vocabulary.Search.hasRecord_of_decode.roundTrips fun _ => Vocabulary.Search.decode_encode,
    Vocabulary.Filter.hasRecord_of_decode.roundTrips fun _ => Vocabulary.Filter.decode_encode,
    Vocabulary.Item.hasRecord_of_decode.roundTrips fun _ => Vocabulary.Item.decode_encode,
    fun fields item hitem => ?_⟩
  have h : item.HasRecord := Vocabulary.Item.hasRecord_of_decode _ _ hitem
  refine ⟨fun field hfield => ?_, ?_, item.fields, rfl, ?_⟩
  · have hkey := h.foreign field hfield
    rw [Vocabulary.Item.isOwnKey_eq] at hkey
    exact of_decide_eq_false hkey
  · rw [← Vocabulary.Item.extraOf_eq]
    exact Vocabulary.Item.extra_of_decode hitem
  · rw [← Vocabulary.Item.extraOf_eq]
    exact Vocabulary.Item.extraOf_fields h

/-- A record of each type: a template under second names of its body and its kind, with a variable
    in an array; a concept with one half of a text left out, and what such concepts are sought by in
    an array; a request without criteria, and criteria with a limit; options in an array that is too
    short; a search and a filter, one with `null` in a field and one with a field that nothing
    knows; and a word with such a field, without a grade and with metadata that are `null`. -/
theorem records_round_trip_of_one_of_each :
    let variableRecord : Json := .array [.string "name", .object [("string", .null)], .null,
      .bool true, .number (.whole 3)]
    let var : Variable := {
      name := "name", kind := .string, required := true, default? := some (.number (.whole 3)) }
    let templateRecord : Json := .object [("description", .string "Two meet."),
      ("difficultyRange", .array [.string "A1", .string "B2"]), ("id", .string "greeting"),
      ("name", .string "Greeting"), ("templateBody", .string "\x7b\x7bname\x7d\x7d!"),
      ("type", .string "culture"), ("variables", .array [variableRecord])]
    let template : LessonTemplate := {
      id := "greeting", name := "Greeting", description := "Two meet.", kind := .cultural
      lowest := .a1, highest := .b2, body := "\x7b\x7bname\x7d\x7d!", declared := [var] }
    let conceptRecord : Json := .object [
      ("commonMistakes", .array [.array [.string "no article"], .array []]),
      ("culturalContext", .array [.string "suffix", .string "word",
        .object [("bgToDe", .string "before"), ("deToBg", .string "behind")]]),
      ("description", .object [("german", .string "Der Artikel")]), ("difficulty", .string "A2"),
      ("examples", .array [
        .object [("bulgarian", .string "домът"), ("german", .string "das Haus")]]),
      ("id", .string "articles"), ("name", .array [.string "Член", .string "Artikel"]),
      ("partOfSpeech", .array [.string "noun", .string "numeral"]),
      ("relatedConcepts", .array [.string "cases"])]
    let concept : Grammar.Concept := {
      id := "articles", name := ⟨"Член", "Artikel"⟩, description := ⟨"", "Der Artikel"⟩
      level := .a2, partsOfSpeech := [.noun, .number]
      culturalContext := ⟨"suffix", "word", ⟨"before", "behind"⟩⟩
      examples := [{ bulgarian := "домът", german := "das Haus" }]
      mistakes := ⟨["no article"], []⟩, related := ["cases"] }
    let rules : Grammar.Criteria := { partOfSpeech := some .noun, limit := some 2 }
    let criteriaRecord : Json := .object [("categories", .array [.string "home"]),
      ("limit", .number (.whole 5)), ("partOfSpeech", .null)]
    let criteria : Lesson.Criteria := { categories := ["home"], limit := some 5 }
    let request : Lesson.Request := {
      kind? := some .cultural, level := .a1, direction := .bulgarianToGerman }
    let options : Lesson.Options := { spacedRepetition := some true }
    let search : Vocabulary.Search := { query := some "Ha", difficulty := some 1, offset := 10 }
    let filter : Vocabulary.Filter := { category := some "home" }
    let fields : Fields := [("bulgarian", .string "дом"), ("german", .string "Haus"),
      ("id", .string "haus"), ("metadata", .null), ("note", .array [.null]),
      ("partOfSpeech", .string "noun")]
    let word : Vocabulary.Item := {
      id := "haus", german := "Haus", bulgarian := "дом", partOfSpeech := "noun"
      extra := [("note", .array [.null])] }
    (LessonTemplate.decode templateRecord = .ok template ∧
      LessonTemplate.decode template.encode = .ok template) ∧
    (Variable.decode variableRecord = .ok var ∧ Variable.decode var.encode = .ok var) ∧
    (Grammar.Concept.decode conceptRecord = .ok concept ∧
      Grammar.Concept.decode concept.encode = .ok concept) ∧
    (Grammar.Criteria.decode (.array [.null, .string "noun", .number (.whole 2), .null]) =
        .ok rules ∧
      Grammar.Criteria.decode rules.encode = .ok rules) ∧
    (Lesson.Criteria.decode criteriaRecord = .ok criteria ∧
      Lesson.Criteria.decode criteria.encode = .ok criteria) ∧
    (Lesson.Request.decode (.object [("difficulty", .string "A1"),
        ("direction", .string "BG_DE"), ("type", .string "culture")]) = .ok request ∧
      Lesson.Request.decode request.encode = .ok request) ∧
    (Lesson.Options.decode (.array [.bool true, .null]) = .ok options ∧
      Lesson.Options.decode options.encode = .ok options) ∧
    (Vocabulary.Search.decode (.object [("difficulty", .number (.whole 1)), ("limit", .null),
        ("offset", .number (.whole 10)), ("query", .string "Ha")]) = .ok search ∧
      Vocabulary.Search.decode search.encode = .ok search) ∧
    (Vocabulary.Filter.decode (.object [("category", .string "home"), ("level", .null)]) =
        .ok filter ∧
      Vocabulary.Filter.decode filter.encode = .ok filter) ∧
    Vocabulary.Item.decode (.object fields) = .ok word ∧
    Vocabulary.Item.decode word.encode = .ok word ∧
    ∃ written, word.encode = .object written ∧
      written.filter (·.1 ∉ Vocabulary.Item.ownKeys) = [("note", .array [.null])] := by
  intro variableRecord var templateRecord template conceptRecord concept rules criteriaRecord
    criteria request options search filter fields word
  obtain ⟨htemplate, hvar, hconcept, hrules, hcriteria, hrequest, hoptions, hsearch, hfilter,
    hword, hkept⟩ := records_round_trip
  have hread : Vocabulary.Item.decode (.object fields) = .ok word := by decide +kernel
  -- what each of them decodes to is evaluated, and that it is read back is the theorem
  have hback : ∀ {α : Type} {decode : Decoder α} {encode : α → Json}, RoundTrips decode encode →
      ∀ {v x}, decode v = .ok x → decode v = .ok x ∧ decode (encode x) = .ok x :=
    fun h _ _ hx => ⟨hx, h _ _ hx⟩
  refine ⟨hback htemplate ?_, hback hvar ?_, hback hconcept ?_, hback hrules ?_, hback hcriteria ?_,
    hback hrequest ?_, hback hoptions ?_, hback hsearch ?_, hback hfilter ?_, hread,
    hword _ _ hread, (hkept fields word hread).2.2⟩
  all_goals decide +kernel

end BilingualLessons
