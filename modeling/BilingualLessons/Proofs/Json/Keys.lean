import BilingualLessons.Json.Value
import Mathlib.Data.List.Nodup

namespace BilingualLessons.Fields

/-!
# The keys of fields

What an insertion does to the list of fields, and not only to look-up.

* `get?_eq_none_iff` — look-up finds nothing exactly under the keys that are not there.
* `insertAll_perm` — fields under new keys are added to those at hand.
* `get?_of_perm` — the order of fields under different keys does not matter to look-up.
* `filter_insertAll_of_not` — a choice by key of fields does not see the others come in.
-/

variable {key : String} {value : Json} {fields added : Fields} {p : String → Bool}

theorem get?_eq_none_iff : get? key fields = none ↔ key ∉ fields.map (·.1) := by
  induction fields with
  | nil => simp
  | cons field rest ih =>
    obtain ⟨k, v⟩ := field
    rw [get?_cons, List.map_cons, List.mem_cons, not_or, ← ih]
    by_cases hk : k = key
    · simp [hk]
    · simp [hk, Ne.symm hk]

/-- A field under a new key is added to those at hand. -/
theorem insert_perm (h : key ∉ fields.map (·.1)) :
    (fields.insert key value).Perm ((key, value) :: fields) := by
  induction fields with
  | nil => exact .refl _
  | cons field rest ih =>
    obtain ⟨k, v⟩ := field
    rw [List.map_cons, List.mem_cons, not_or] at h
    -- it goes in front of the first key that comes after its own, and replaces no field
    unfold insert
    split
    · exact .refl _
    · rw [if_neg (Ne.symm h.1)]
      exact ((ih h.2).cons _).trans (.swap _ _ _)

/-- Fields under new keys, each of its own, are added to those at hand. -/
theorem insertAll_perm (honce : (added.map (·.1)).Nodup)
    (hnew : ∀ key ∈ added.map (·.1), key ∉ fields.map (·.1)) :
    (fields.insertAll added).Perm (added ++ fields) := by
  induction added generalizing fields with
  | nil => exact .refl _
  | cons field added ih =>
    obtain ⟨k, v⟩ := field
    rw [List.map_cons, List.nodup_cons] at honce
    rw [List.map_cons, List.forall_mem_cons] at hnew
    have hinsert : (fields.insert k v).Perm ((k, v) :: fields) := insert_perm hnew.1
    -- the keys still to come are new among those at hand now, too
    have hlater : ∀ key ∈ added.map (·.1), key ∉ (fields.insert k v).map (·.1) := by
      intro key hkey hmem
      rcases List.mem_cons.mp ((hinsert.map _).mem_iff.mp hmem) with hsame | hold
      · exact honce.1 (hsame ▸ hkey)
      · exact hnew.2 key hkey hold
    have hrest : ((fields.insert k v).insertAll added).Perm (added ++ fields.insert k v) :=
      ih honce.2 hlater
    exact hrest.trans ((hinsert.append_left added).trans List.perm_middle)

/-- Under keys that are not used twice, the order of the fields does not matter to look-up. -/
theorem get?_of_perm {fields' : Fields} (hperm : fields.Perm fields')
    (honce : (fields.map (·.1)).Nodup) : get? key fields = get? key fields' := by
  induction hperm with
  | nil => rfl
  | cons field _ ih =>
    rw [List.map_cons, List.nodup_cons] at honce
    rw [get?_cons, get?_cons, ih honce.2]
  | swap field field' rest =>
    -- the two keys differ, so the one looked for is that of one field at most
    have hdiffer : field'.1 ≠ field.1 := by
      intro hsame
      simp [hsame] at honce
    rw [get?_cons, get?_cons, get?_cons, get?_cons]
    by_cases hk : field.1 = key
    · rw [if_neg (hk ▸ hdiffer), if_pos hk, if_pos hk]
    · rw [if_neg hk, if_neg hk]
  | trans hfirst _ ih ih' =>
    rw [ih honce, ih' ((hfirst.map _).nodup_iff.mp honce)]

/-- A choice by key that leaves a key out does not see a field come in under it. -/
theorem filter_insert_of_not (h : p key = false) :
    (fields.insert key value).filter (fun field => p field.1)
      = fields.filter fun field => p field.1 := by
  induction fields with
  | nil => simp [insert, h]
  | cons field rest ih =>
    obtain ⟨k, v⟩ := field
    unfold insert
    split
    · simp [h]
    · split
      · next hk => simp [h, hk]
      · rw [List.filter_cons, List.filter_cons, ih]

/-- A choice by key that leaves all these keys out does not see fields come in under them. -/
theorem filter_insertAll_of_not (h : ∀ field ∈ added, p field.1 = false) :
    (fields.insertAll added).filter (fun field => p field.1)
      = fields.filter fun field => p field.1 := by
  induction added generalizing fields with
  | nil => rfl
  | cons field added ih =>
    rw [List.forall_mem_cons] at h
    have hrest : ((fields.insert field.1 field.2).insertAll added).filter (fun f => p f.1)
        = (fields.insert field.1 field.2).filter fun f => p f.1 := ih h.2
    rw [insertAll, List.foldl_cons, ← insertAll, hrest, filter_insert_of_not h.1]

end BilingualLessons.Fields
