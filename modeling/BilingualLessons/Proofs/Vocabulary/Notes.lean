import BilingualLessons.Lesson.Planner
import BilingualLessons.Proofs.Json.Order
import BilingualLessons.Proofs.Record.Items
import BilingualLessons.Vocabulary.Notes

namespace BilingualLessons.Vocabulary

/-!
# Words with notes

A lesson shows a word as its record with two more fields, the label of its part of speech and the
note on it.  The record is put together field by field and the two are put over whatever was there,
so it could hide a field of the word or come out in another way the second time.  It does neither,
because the two fields are no fields that a word has a place for: the record is that of the word
which keeps the two among its other fields.

* `Item.withNote` — the word that keeps the label and the note.
* `Item.annotated_eq_encode` — what a lesson shows is the record of that word.
* `Item.withNote_withNote` — which has nothing left to be added.
* `annotations_are_kept_as_fields` — what is shown is read back as that word, and shown the same
  again; lists of words are shown word by word.
-/

namespace Item

open Fields

/-- The word that keeps the label of its part of speech and the note on it among the fields that
    have no place of their own. -/
def withNote (item : Item) : Item :=
  { item with
    extra := (item.extra.insert "correctedPartOfSpeech" (.string (partLabel item.part))).insert
      "grammarInfo" (.string (partNote item.part)) }

variable {item : Item}

/-- The two fields are none that a word has a place for. -/
theorem isOwnKey_of_note :
    isOwnKey "correctedPartOfSpeech" = false ∧ isOwnKey "grammarInfo" = false := by
  decide

theorem hasRecord_withNote (h : item.HasRecord) : item.withNote.HasRecord where
  difficulty := h.difficulty
  metadata := h.metadata
  foreign field hfield := by
    rcases mem_of_mem_insert hfield with rfl | hfield
    · exact isOwnKey_of_note.2
    · rcases mem_of_mem_insert hfield with rfl | hfield
      · exact isOwnKey_of_note.1
      · exact h.foreign field hfield

theorem get?_ownFields_of_not {key : String} (h : isOwnKey key = false) :
    get? key item.ownFields.reverse = none := by
  rw [get?_eq_none_iff, List.map_reverse, List.mem_reverse, List.mem_map]
  rintro ⟨field, hfield, rfl⟩
  rw [isOwnKey_of_mem_ownFields item field hfield] at h
  cases h

/-- Two of the fields that the word keeps are set, and the others are as they were. -/
theorem get?_extra_withNote (key : String) :
    get? key item.withNote.extra
      = if "grammarInfo" = key then some (.string (partNote item.part))
        else if "correctedPartOfSpeech" = key then some (.string (partLabel item.part))
        else get? key item.extra := by
  rw [withNote, get?_insert, get?_insert]

/-- **What is shown.** The record with the label and the note is that of the word which keeps
    them. -/
theorem annotated_eq_encode (horder : item.extra.Ascending) :
    item.annotated = item.withNote.encode := by
  -- both records are in order, so look-up tells whether they are the same
  have hleft : ((item.fields.insert "correctedPartOfSpeech" (.string (partLabel item.part))).insert
      "grammarInfo" (.string (partNote item.part))).Ascending := horder.insertAll.insert.insert
  have hright : item.withNote.fields.Ascending := horder.insert.insert.insertAll
  refine congrArg Json.object (hleft.ext hright fun key => ?_)
  have hown : item.withNote.ownFields = item.ownFields := rfl
  rw [fields, fields, hown, get?_insertAll, get?_extra_withNote, get?_insert, get?_insert,
    get?_insertAll]
  -- under neither of the two keys has the word a field of its own
  by_cases hnote : "grammarInfo" = key
  · subst hnote
    rw [get?_ownFields_of_not isOwnKey_of_note.2, if_pos rfl, if_pos rfl, Option.none_or]
  · by_cases hlabel : "correctedPartOfSpeech" = key
    · subst hlabel
      rw [get?_ownFields_of_not isOwnKey_of_note.1, if_neg hnote, if_neg hnote, if_pos rfl,
        if_pos rfl, Option.none_or]
    · rw [if_neg hnote, if_neg hnote, if_neg hlabel, if_neg hlabel]

/-- Nothing is left to be added to a word that keeps its label and note. -/
theorem withNote_withNote (horder : item.extra.Ascending) :
    item.withNote.withNote = item.withNote := by
  have hextra : item.withNote.extra.Ascending := horder.insert.insert
  have hagain : item.withNote.withNote.extra = item.withNote.extra := by
    refine Ascending.ext hextra.insert.insert hextra fun key => ?_
    -- the label and the note go by fields that do not change
    have hpart : item.withNote.part = item.part := rfl
    rw [get?_extra_withNote, get?_extra_withNote, hpart]
    by_cases hnote : "grammarInfo" = key
    · rw [if_pos hnote, if_pos hnote]
    · by_cases hlabel : "correctedPartOfSpeech" = key
      · rw [if_neg hnote, if_neg hnote, if_pos hlabel, if_pos hlabel]
      · rw [if_neg hnote, if_neg hlabel]
  calc item.withNote.withNote
      = { item.withNote with extra := item.withNote.withNote.extra } := rfl
    _ = item.withNote := by rw [hagain]

/-- Fields that are left over from fields in order are in order. -/
theorem ascending_extra_of_decode {fields : Fields} (horder : fields.Ascending)
    (h : decode (.object fields) = .ok item) : item.extra.Ascending := by
  rw [extra_of_decode h]
  exact horder.filter _

end Item

/-- **Notes are fields.** Whatever pairs the record of a word is made of: its record with label and
    note is read as a word that only differs in the fields which it keeps, where the label and the
    note stand in place of what was under their keys. That word is shown the same again. Lists of
    words are shown word by word, in their order. -/
theorem annotations_are_kept_as_fields :
    (∀ (pairs : List (String × Json)) (item : Item),
      Item.decode (.object (Fields.ofList pairs)) = .ok item →
        Item.decode item.annotated = .ok item.withNote ∧
        item.withNote.annotated = item.annotated) ∧
    ∀ items : List Item, ∃ shown, Lesson.annotatedWords items = .array shown ∧
      shown.length = items.length ∧ ∀ i : Nat, shown[i]? = items[i]?.map Item.annotated := by
  refine ⟨fun pairs item hitem => ?_, fun items => ?_⟩
  · have horder : item.extra.Ascending :=
      Item.ascending_extra_of_decode (Fields.ascending_ofList pairs) hitem
    have hrecord : item.HasRecord := Item.hasRecord_of_decode _ _ hitem
    have hagain : item.withNote.extra.Ascending := horder.insert.insert
    constructor
    · rw [Item.annotated_eq_encode horder]
      exact Item.decode_encode (Item.hasRecord_withNote hrecord)
    · rw [Item.annotated_eq_encode hagain, Item.withNote_withNote horder,
        Item.annotated_eq_encode horder]
  · exact ⟨items.map Item.annotated, rfl, List.length_map _, fun i => List.getElem?_map⟩

/-- A word under another class, whose record has a field of the name of the label, no grade, and two
    fields under one key. -/
theorem annotations_are_kept_as_fields_of_a_greeting :
    let pairs : List (String × Json) := [("partOfSpeech", .string "adverb"),
      ("id", .string "bitte"), ("german", .string "danke"), ("bulgarian", .string "моля"),
      ("metadata", .null), ("german", .string "bitte"), ("correctedPartOfSpeech", .bool true),
      ("note", .array [.null])]
    let word : Item := {
      id := "bitte", german := "bitte", bulgarian := "моля", partOfSpeech := "adverb",
      extra := [("correctedPartOfSpeech", .bool true), ("note", .array [.null])] }
    let shown : Item := { word with
      extra := [("correctedPartOfSpeech", .string "Interjection"),
        ("grammarInfo", .string ("Interjections are words or phrases used to express emotion or " ++
          "greeting. They are often used at the beginning of sentences.")),
        ("note", .array [.null])] }
    Item.decode (.object (Fields.ofList pairs)) = .ok word ∧
    Item.decode word.annotated = .ok shown ∧ shown.annotated = word.annotated := by
  intro pairs word shown
  have hword : Item.decode (.object (Fields.ofList pairs)) = .ok word := by decide +kernel
  have hshown : word.withNote = shown := by decide +kernel
  rw [← hshown]
  exact ⟨hword, annotations_are_kept_as_fields.1 pairs word hword⟩

end BilingualLessons.Vocabulary
