import BilingualLessons.Json.Value

namespace BilingualLessons

/-!
# The parts of a value

* `Json.parts` — a value and all values in it, at any depth; keys are no values.
* `parts_subset_of_mem`, `parts_subset_of_get?` — an element of an array and a field of an object
  have no parts but those of the array or object.
-/

namespace Json

mutual

/-- A value and all values in it. -/
def parts : Json → List Json
  | .array items => .array items :: partsOfItems items
  | .object fields => .object fields :: partsOfFields fields
  | .null => [.null]
  | .bool b => [.bool b]
  | .number n => [.number n]
  | .string s => [.string s]

/-- The parts of the elements of an array, one element after the other. -/
def partsOfItems : List Json → List Json
  | [] => []
  | item :: rest => item.parts ++ partsOfItems rest

/-- The parts of the fields of an object, one field after the other. -/
def partsOfFields : List (String × Json) → List Json
  | [] => []
  | (_, v) :: rest => v.parts ++ partsOfFields rest

end

/-- Every value is a part of itself. -/
theorem mem_parts (v : Json) : v ∈ v.parts := by
  cases v <;> simp [parts]

theorem parts_subset_of_mem {item : Json} {items : List Json} (h : item ∈ items) :
    item.parts ⊆ partsOfItems items := by
  induction items with
  | nil => exact absurd h (by simp)
  | cons first rest ih =>
    rw [partsOfItems]
    rcases List.mem_cons.mp h with rfl | hrest
    · exact List.subset_append_left _ _
    · exact List.subset_append_of_subset_right _ (ih hrest)

theorem parts_subset_of_get? {key : String} {v : Json} {fields : Fields}
    (h : Fields.get? key fields = some v) : v.parts ⊆ partsOfFields fields := by
  induction fields with
  | nil => exact absurd h (by simp)
  | cons field rest ih =>
    obtain ⟨k, w⟩ := field
    rw [partsOfFields]
    rw [Fields.get?_cons] at h
    split at h
    · obtain rfl := Option.some.inj h
      exact List.subset_append_left _ _
    · exact List.subset_append_of_subset_right _ (ih h)

/-- The parts of an element are parts of the array. -/
theorem parts_item_subset {item : Json} {items : List Json} (h : item ∈ items) :
    item.parts ⊆ (Json.array items).parts := by
  rw [parts]
  exact List.subset_cons_of_subset _ (parts_subset_of_mem h)

/-- The parts of a field are parts of the object. -/
theorem parts_field_subset {key : String} {v : Json} {fields : Fields}
    (h : Fields.get? key fields = some v) : v.parts ⊆ (Json.object fields).parts := by
  rw [parts]
  exact List.subset_cons_of_subset _ (parts_subset_of_get? h)

end Json

end BilingualLessons
