import BilingualLessons.Proofs.Record.Reading
import BilingualLessons.Vocabulary.Item

namespace BilingualLessons.Vocabulary.Item

open Record

/-!
# Vocabulary items read back

The record of an item has its own fields and the fields that it keeps for others, all in one order
of keys.  Reading tells them apart by their keys again.

* `HasRecord` — a grade in bounds, no metadata that is `null`, and nothing among the kept fields
  that has a place of its own.
* `ownFields_perm` — of an item's record its own fields are known, and no others.
* `extraOf_fields` — the others are those that it keeps, in the same order.
* `decode_encode`, `hasRecord_of_decode` — such an item is read back, and every item that is read
  is one.
-/

/-- What the record of an item can hold and tell apart. -/
structure HasRecord (item : Item) : Prop where
  difficulty : item.difficulty < Nat.pow 2 8
  metadata : item.metadata ≠ some .null
  foreign : ∀ field ∈ item.extra, isOwnKey field.1 = false

/-- The grade is read as it was written. -/
theorem HasRecord.octet_difficulty {item : Item} (h : item.HasRecord) :
    octet (.ofNat item.difficulty) = .ok item.difficulty :=
  natBelow_ofNat h.difficulty

/-- Metadata are read as they were written. -/
theorem HasRecord.nullable_metadata {item : Item} (h : item.HasRecord) {v : Json}
    (hv : item.metadata = some v) : nullable anything v = .ok (some v) :=
  nullable_of_ne_null fun hnull => h.metadata (hnull ▸ hv)

/-- The keys that have a place of their own in an item. -/
def ownKeys : List String := slots.map (·.name)

theorem isOwnKey_eq (key : String) : isOwnKey key = decide (key ∈ ownKeys) := by
  rw [Bool.eq_iff_iff, decide_eq_true_iff, isOwnKey, List.any_eq_true, ownKeys, List.mem_map]
  refine exists_congr fun slot => and_congr_right fun hslot => ?_
  -- no field of an item has a second name
  have hname : slot.alias? = none := by
    revert slot
    simp [slots]
  simp [Slot.isNamed, hname]

example : ownKeys = ["id", "german", "bulgarian", "partOfSpeech", "difficulty", "categories",
    "metadata"] := rfl

theorem extraOf_eq (kept : Fields) : extraOf kept = kept.filter (·.1 ∉ ownKeys) := by
  simp only [extraOf, isOwnKey_eq, decide_not]

/-! ### The fields of an item -/

section

variable (item : Item)

theorem isOwnKey_of_mem_ownFields : ∀ field ∈ item.ownFields, isOwnKey field.1 = true := by
  cases hmetadata : item.metadata <;>
    simp [ownFields, hmetadata, isOwnKey, slots, Slot.isNamed]

theorem nodup_ownFields : (item.ownFields.map (·.1)).Nodup := by
  cases hmetadata : item.metadata <;> simp [ownFields, hmetadata]

/-- The own fields are a record of an item. -/
theorem holds_ownFields {item : Item} (h : item.HasRecord) : shape.Holds item.ownFields where
  fits := by
    cases hv : item.metadata with
    | none => simp [ownFields, hv, shape, slots, h.octet_difficulty]
    | some v => simp [ownFields, hv, shape, slots, h.octet_difficulty, h.nullable_metadata hv]
  once := nodup_ownFields item
  complete := by
    simp [shape, slots, ownFields]

end

variable {item : Item}

/-- Its own fields are those that a reader of the record knows. -/
theorem ownFields_perm (h : item.HasRecord) :
    (item.fields.filter fun field => shape.knows field.1).Perm item.ownFields := by
  have hnew : ∀ key ∈ item.ownFields.map (·.1), key ∉ item.extra.map (·.1) := by
    intro key hown hextra
    obtain ⟨field, hfield, rfl⟩ := List.mem_map.mp hown
    obtain ⟨other, hother, hkey⟩ := List.mem_map.mp hextra
    have hforeign := h.foreign other hother
    rw [hkey, isOwnKey_of_mem_ownFields item field hfield] at hforeign
    cases hforeign
  have hown : item.ownFields.filter (fun field => shape.knows field.1) = item.ownFields :=
    List.filter_eq_self.mpr (isOwnKey_of_mem_ownFields item)
  have hextra : item.extra.filter (fun field => shape.knows field.1) = [] := by
    refine List.filter_eq_nil_iff.mpr fun field hfield => ?_
    exact Bool.eq_false_iff.mp (h.foreign field hfield)
  have hall := (Fields.insertAll_perm (nodup_ownFields item) hnew).filter
    fun field => shape.knows field.1
  rwa [List.filter_append, hown, hextra, List.append_nil] at hall

/-- The fields that have no place of their own in the record are those that the item keeps. -/
theorem extraOf_fields (h : item.HasRecord) : extraOf item.fields = item.extra := by
  have hown : ∀ field ∈ item.ownFields, (!isOwnKey field.1) = false := fun field hfield => by
    rw [isOwnKey_of_mem_ownFields item field hfield]
    rfl
  have hextra : extraOf item.extra = item.extra :=
    List.filter_eq_self.mpr fun field hfield => by rw [h.foreign field hfield]; rfl
  have hfields : extraOf item.fields = extraOf item.extra :=
    Fields.filter_insertAll_of_not (p := fun key => !isOwnKey key) hown
  rw [hfields, hextra]

/-! ### Reading -/

theorem decode_encode (h : item.HasRecord) : decode item.encode = .ok item := by
  have hperm := ownFields_perm h
  have hfields : shape.fromFields item.fields
      = .ok (item.fields.filter fun field => shape.knows field.1) :=
    shape.fromFields_of_holds (by decide) ((holds_ownFields h).perm hperm.symm)
  have honce := (hperm.map _).nodup_iff.mpr (nodup_ownFields item)
  have hdifficulty := h.octet_difficulty
  have hmetadata : ∀ v, item.metadata = some v → nullable anything v = .ok (some v) :=
    fun v hv => h.nullable_metadata hv
  simp only [encode, decode, hfields, ok_bind, Values.optional, required_of_perm hperm honce,
    defaulted_of_perm hperm honce, extraOf_fields h]
  obtain ⟨id, german, bulgarian, part, difficulty, categories, metadata, extra⟩ := item
  cases metadata with
  | none => simp [ownFields, hdifficulty]
  | some v => simp [ownFields, hdifficulty, hmetadata v rfl]

/-- Of an object an item keeps the fields that it has no place for. -/
theorem extra_of_decode {fields : Fields} (h : decode (.object fields) = .ok item) :
    item.extra = extraOf fields := by
  simp only [decode, bind_eq_ok_iff] at h
  obtain ⟨found, -, id, -, german, -, bulgarian, -, part, -, difficulty, -, categories, -,
    metadata, -, h⟩ := h
  cases h
  rfl

theorem hasRecord_of_decode : Decoder.Gives decode HasRecord := by
  intro v item h
  unfold decode at h
  split at h
  · next fields =>
    simp only [bind_eq_ok_iff] at h
    obtain ⟨found, -, id, -, german, -, bulgarian, -, part, -, difficulty, hdifficulty,
      categories, -, metadata, hmetadata, h⟩ := h
    cases h
    have hbound := natBelow_gives.defaulted (by decide) hdifficulty
    have hnone : (none : Option Json) ≠ some .null := nofun
    have hnull := nullable_anything_gives.defaulted hnone hmetadata
    refine ⟨hbound, hnull, fun field hfield => ?_⟩
    simpa using (List.mem_filter.mp hfield).2
  · cases h

end BilingualLessons.Vocabulary.Item
