import BilingualLessons.Json.Value

namespace BilingualLessons

/-!
# Values without `null`

* `Json.withoutNulls` — a value without the fields that are `null`, in it and in all objects inside
  it; the elements of arrays stay in their places.
* `get?_withoutNulls` — what is then under a key.
-/

namespace Json

mutual

/-- A value without the fields that are `null`, at any depth. -/
def withoutNulls : Json → Json
  | .array items => .array (itemsWithoutNulls items)
  | .object fields => .object (fieldsWithoutNulls fields)
  | .null => .null
  | .bool b => .bool b
  | .number n => .number n
  | .string s => .string s

/-- The elements of an array, each without the fields that are `null`. An element that is `null`
    stays. -/
def itemsWithoutNulls : List Json → List Json
  | [] => []
  | item :: rest => item.withoutNulls :: itemsWithoutNulls rest

/-- The fields of an object without those that are `null`. The first of several fields with one key
    counts, so the others go with it. -/
def fieldsWithoutNulls : List (String × Json) → List (String × Json)
  | [] => []
  | (key, v) :: rest =>
    if v.isNull then Fields.erase key (fieldsWithoutNulls rest)
    else (key, v.withoutNulls) :: fieldsWithoutNulls rest

end

theorem itemsWithoutNulls_eq_map (items : List Json) :
    itemsWithoutNulls items = items.map withoutNulls := by
  induction items with
  | nil => rfl
  | cons item rest ih => rw [itemsWithoutNulls, ih, List.map_cons]

@[simp] theorem kind_withoutNulls (v : Json) : v.withoutNulls.kind = v.kind := by
  cases v <;> rfl

@[simp] theorem nonNull_withoutNulls (v : Json) :
    v.withoutNulls.nonNull = v.nonNull.map withoutNulls := by
  cases v <;> rfl

/-- **Look-up.** A key has the value that it had, and none if that was `null`. -/
theorem get?_withoutNulls (key : String) (fields : Fields) :
    Fields.get? key (fieldsWithoutNulls fields)
      = ((Fields.get? key fields).bind nonNull).map withoutNulls := by
  induction fields with
  | nil => rfl
  | cons field rest ih =>
    obtain ⟨k, v⟩ := field
    rw [fieldsWithoutNulls, Fields.get?_cons]
    -- a field that is `null` goes, and with it every later one of its key
    by_cases hnull : v.isNull
    · rw [if_pos hnull, Fields.get?_erase, ih]
      by_cases hk : k = key
      · simp [hk, nonNull, hnull]
      · simp [hk]
    · rw [if_neg hnull, Fields.get?_cons, ih]
      by_cases hk : k = key
      · simp [hk, nonNull, hnull]
      · simp [hk]

end Json

end BilingualLessons
