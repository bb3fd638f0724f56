import BilingualLessons.Proofs.Json.Keys
import Mathlib.Data.String.Basic

namespace BilingualLessons.Fields

/-!
# The order of fields

An object holds its fields in ascending order of their keys.  In this order fields are told apart
by look-up alone, so that two ways to come by fields can be compared without a word about places.

* `Ascending` — the order, which also lets no key come twice.
* `Ascending.insert`, `ascending_ofList` — fields are in order as soon as they are put together by
  insertion; `Ascending.filter` — and stay so when some are left out.
* `Ascending.ext` — fields in order are the same if look-up finds the same.
-/

/-- The keys are in ascending order, none of them twice. -/
def Ascending (fields : Fields) : Prop :=
  fields.Pairwise fun field next => field.1 < next.1

variable {key : String} {value : Json} {fields added left right : Fields}

theorem ascending_nil : Ascending [] := List.Pairwise.nil

/-! ### Putting fields together -/

/-- A field that is inserted is the one under its key, and the others were there before. -/
theorem mem_of_mem_insert {field : String × Json} (h : field ∈ fields.insert key value) :
    field = (key, value) ∨ field ∈ fields := by
  induction fields with
  | nil => exact .inl (List.mem_singleton.mp h)
  | cons first rest ih =>
    unfold insert at h
    split at h
    · exact List.mem_cons.mp h
    · split at h
      · rcases List.mem_cons.mp h with hnew | hold
        · exact .inl hnew
        · exact .inr (List.mem_cons_of_mem _ hold)
      · rcases List.mem_cons.mp h with rfl | hrest
        · exact .inr List.mem_cons_self
        · exact (ih hrest).imp_right (List.mem_cons_of_mem _)

/-- A field goes to its place in the order. -/
theorem Ascending.insert (h : fields.Ascending) : (fields.insert key value).Ascending := by
  induction fields with
  | nil => exact List.pairwise_singleton _ _
  | cons first rest ih =>
    obtain ⟨k, v⟩ := first
    obtain ⟨hfirst, hrest⟩ := List.pairwise_cons.mp h
    unfold Fields.insert
    split
    · next hlt =>
      -- what comes behind the first key comes behind the new one, too
      refine List.pairwise_cons.mpr ⟨fun field hfield => ?_, h⟩
      rcases List.mem_cons.mp hfield with rfl | hbehind
      · exact hlt
      · exact lt_trans hlt (hfirst field hbehind)
    · next hnot =>
      split
      · next hsame =>
        subst hsame
        exact List.pairwise_cons.mpr ⟨hfirst, hrest⟩
      · next hdiffer =>
        have hbehind : k < key := lt_of_le_of_ne (not_lt.mp hnot) hdiffer
        refine List.pairwise_cons.mpr ⟨fun field hfield => ?_, ih hrest⟩
        rcases mem_of_mem_insert hfield with rfl | hold
        · exact hbehind
        · exact hfirst field hold

theorem Ascending.insertAll (h : fields.Ascending) : (fields.insertAll added).Ascending := by
  induction added generalizing fields with
  | nil => exact h
  | cons field added ih => exact ih h.insert

/-- The fields of any list of pairs are in order. -/
theorem ascending_ofList (pairs : List (String × Json)) : (ofList pairs).Ascending :=
  ascending_nil.insertAll

theorem Ascending.filter (h : fields.Ascending) (p : String × Json → Bool) :
    Ascending (List.filter p fields) :=
  List.Pairwise.filter p h

/-! ### Comparing fields -/

/-- A key that is not used twice leads to the field that has it. -/
theorem get?_eq_some_iff (honce : (fields.map (·.1)).Nodup) :
    get? key fields = some value ↔ (key, value) ∈ fields := by
  induction fields with
  | nil => simp
  | cons field rest ih =>
    obtain ⟨k, v⟩ := field
    obtain ⟨hnew, hrest⟩ := List.nodup_cons.mp honce
    rw [get?_cons, List.mem_cons, Prod.mk.injEq]
    by_cases hk : k = key
    · subst hk
      have habsent : (k, value) ∉ rest := fun hmem =>
        hnew (List.mem_map.mpr ⟨(k, value), hmem, rfl⟩)
      simp [habsent, eq_comm]
    · simp [hk, Ne.symm hk, ih hrest]

theorem Ascending.nodup_keys (h : fields.Ascending) : (fields.map (·.1)).Nodup :=
  List.pairwise_map.mpr (h.imp fun hlt => hlt.ne)

theorem Ascending.nodup (h : fields.Ascending) : fields.Nodup :=
  List.Nodup.of_map _ h.nodup_keys

/-- **Look-up is all.** Fields in order under which look-up finds the same are the same. -/
theorem Ascending.ext (hleft : left.Ascending) (hright : right.Ascending)
    (h : ∀ key, get? key left = get? key right) : left = right := by
  have hmem : ∀ field, field ∈ left ↔ field ∈ right := by
    intro (key, value)
    rw [← get?_eq_some_iff hleft.nodup_keys, ← get?_eq_some_iff hright.nodup_keys, h]
  -- two lists with the same members, both strictly ascending, are one list
  have hperm : left.Perm right := (List.perm_ext_iff_of_nodup hleft.nodup hright.nodup).mpr hmem
  exact hperm.eq_of_pairwise (fun a b _ _ hab hba => absurd hba (lt_asymm hab)) hleft hright

end BilingualLessons.Fields
