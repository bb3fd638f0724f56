import BilingualLessons.Loading.Source
import Mathlib.Data.List.Basic

namespace BilingualLessons.Loading

/-!
# Collections in a file

A file can hold records in a list, or in lists under the keys of an object.  Of these lists one is
taken, that of the first key with an array under it; what stands under a later key is neither
taken nor reported.

* `collections` — all lists of records that an object holds.
* `Complete` — the records of a value, if none of them is left out.
* `values_members` — the records that are taken.
* `no_member_is_lost_iff` — they are complete unless there are members under both keys.
-/

/-! ### Complete records -/

/-- The lists of records that an object holds, one for each key with an array under it. -/
def collections (fields : Fields) : List (List Json) :=
  collectionKeys.filterMap (arrayAt? fields)

/-- The values are all records that `v` holds. An array holds its elements, in their order; an
    object the members of all its collections, those of each in their order; any other value, and an
    object without a collection, itself. -/
def Complete (v : Json) (values : List Json) : Prop :=
  match v with
  | .array items => values = items
  | .object fields =>
    match collections fields with
    | [] => values = [.object fields]
    | lists => values.Perm lists.flatten ∧ ∀ items ∈ lists, items.Sublist values
  | single => values = [single]

theorem arrayAt?_eq_some_iff {fields : Fields} {key : String} {items : List Json} :
    arrayAt? fields key = some items ↔ fields.get? key = some (.array items) := by
  unfold arrayAt?
  split
  · next heq => simp [heq]
  · next hother => simpa using hother items

/-- A list that is taken before others is complete if there is nothing in the others. -/
theorem perm_flatten_cons_iff {first : List Json} {rest : List (List Json)} :
    (first.Perm (first :: rest).flatten ∧ ∀ items ∈ first :: rest, items.Sublist first) ↔
      rest.flatten = [] := by
  rw [List.flatten_cons]
  constructor
  · rintro ⟨hperm, -⟩
    have hlength := hperm.length_eq
    rw [List.length_append] at hlength
    exact List.eq_nil_of_length_eq_zero (by omega)
  · intro hrest
    refine ⟨by rw [hrest, List.append_nil], ?_⟩
    intro items hitems
    rcases List.mem_cons.mp hitems with rfl | hitems
    · exact List.Sublist.refl items
    · rw [List.flatten_eq_nil_iff.mp hrest items hitems]
      exact List.nil_sublist first

/-! ### What is taken -/

/-- A file gives the members of its collection, or its whole content. -/
theorem values_members (origin : String) (v : Json) :
    (members origin v).map (·.value) = (collection? v).getD [v] := by
  unfold members
  cases collection? v with
  | none => rfl
  | some items => simp [numbered, Function.comp_def]

/-- The collection that is taken is the first one. -/
theorem collection?_object (fields : Fields) :
    collection? (.object fields) = (collections fields).head? :=
  List.head?_filterMap.symm

/-- What is taken of a value is complete, unless an object has members in a collection that is not
    its first. -/
theorem complete_taken_iff (v : Json) :
    Complete v ((collection? v).getD [v]) ↔
      ∀ fields, v = .object fields → (collections fields).tail.flatten = [] := by
  -- an array and a value without collections are taken whole; an object loses its later collections
  cases v with
  | array items => simp [Complete, collection?]
  | object fields =>
    rw [collection?_object, Complete]
    cases hlists : collections fields with
    | nil => simp [hlists]
    | cons first rest => simpa [hlists] using perm_flatten_cons_iff
  | _ => simp [Complete, collection?]

/-- With two keys this is a matter of the second. -/
theorem tail_collections_iff (fields : Fields) :
    (collections fields).tail.flatten = [] ↔
      ∀ templates concepts, fields.get? "templates" = some (.array templates) →
        fields.get? "concepts" = some (.array concepts) → concepts = [] := by
  simp only [← arrayAt?_eq_some_iff]
  unfold collections collectionKeys
  cases htemplates : arrayAt? fields "templates" <;>
    cases hconcepts : arrayAt? fields "concepts" <;>
    simp [htemplates, hconcepts]

/-- **Members of a file.** From a file that is JSON no member of a collection is lost exactly if
    the templates are not in one list and concepts in another; where both are, the templates are
    taken. A fault is reported in neither case. -/
theorem no_member_is_lost_iff (origin : String) {content : ByteArray} {text : String} {v : Json}
    (htext : textOf? content = some text) (hread : Json.read text.toList = .ok v) :
    let batch := readFile origin content
    let values := batch.records.map (·.value)
    batch.faults = [] ∧
    (Complete v values ↔
      ∀ templates concepts, v.field? "templates" = some (.array templates) →
        v.field? "concepts" = some (.array concepts) → concepts = []) ∧
    ∀ templates concepts, v.field? "templates" = some (.array templates) →
      v.field? "concepts" = some (.array concepts) → values = templates := by
  intro batch values
  have hbatch : batch = { records := members origin v, filesProcessed := 1 } := by
    simp only [batch, readFile, htext, hread]
  have hvalues : values = (collection? v).getD [v] := by
    simp only [values, hbatch, values_members]
  refine ⟨by rw [hbatch], ?_, ?_⟩
  · rw [hvalues, complete_taken_iff]
    -- only an object has collections
    cases v with
    | object fields => simpa [Json.field?] using tail_collections_iff fields
    | _ => simp [Json.field?]
  · intro templates concepts htemplates _
    cases v with
    | object fields =>
      have hfirst : arrayAt? fields "templates" = some templates :=
        arrayAt?_eq_some_iff.mpr htemplates
      rw [hvalues]
      simp [collection?, collectionKeys, hfirst]
    | _ => simp [Json.field?] at htemplates

/-- An object with one list of concepts and no other array gives all of them. -/
theorem no_member_is_lost_of_two_concepts :
    let text := "\x7b\"templates\": null, \"concepts\": [\"articles\", \"cases\"]\x7d"
    let v : Json := .object [("concepts", .array [.string "articles", .string "cases"]),
      ("templates", .null)]
    textOf? text.toUTF8 = some text ∧ Json.read text.toList = .ok v ∧
      Complete v ((readFile "grammar.json" text.toUTF8).records.map (·.value)) := by
  intro text v
  have htext : textOf? text.toUTF8 = some text := by decide +kernel
  have hread : Json.read text.toList = .ok v := by decide +kernel
  refine ⟨htext, hread, (no_member_is_lost_iff "grammar.json" htext hread).2.1.mpr ?_⟩
  intro templates concepts htemplates
  exact absurd htemplates (by simp [v, Json.field?, Fields.get?])

/-- A concept beside a list of templates, be it an empty one, is neither a record nor a fault. -/
theorem concept_beside_templates_is_lost :
    let text := "\x7b\"templates\": [], \"concepts\": [\x7b\"id\": \"articles\"\x7d]\x7d"
    let v : Json := .object [("concepts", .array [.object [("id", .string "articles")]]),
      ("templates", .array [])]
    let batch := readFile "lessons.json" text.toUTF8
    textOf? text.toUTF8 = some text ∧ Json.read text.toList = .ok v ∧
      batch.records = [] ∧ batch.faults = [] ∧ ¬ Complete v (batch.records.map (·.value)) := by
  intro text v batch
  have hrecords : batch.records = [] := by decide +kernel
  refine ⟨by decide +kernel, by decide +kernel, hrecords, by decide +kernel, ?_⟩
  rw [hrecords]
  rintro ⟨hperm, -⟩
  exact absurd hperm.length_eq (by decide)

end BilingualLessons.Loading
