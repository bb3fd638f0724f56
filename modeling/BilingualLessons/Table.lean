namespace BilingualLessons

/-!
# Tables

* `Table` — values under keys.
* `Table.get?`, `Table.insert` — one value under a key, the last one that was put there.
* `Table.push` — several values under a key, in the order in which they came.
-/

/-- Values under keys, each key once. -/
structure Table (κ α : Type) where
  entries : List (κ × α) := []
deriving DecidableEq, Repr

namespace Table

variable {κ α : Type} [DecidableEq κ]

/-- The value under a key. -/
def get? (key : κ) (table : Table κ α) : Option α := table.entries.lookup key

/-- Puts a value under a key, in place of the one that is there. -/
def insert (key : κ) (value : α) (table : Table κ α) : Table κ α :=
  ⟨(key, value) :: table.entries.filter (·.1 ≠ key)⟩

/-- Puts a value behind those under a key. -/
def push (key : κ) (value : α) (table : Table κ (List α)) : Table κ (List α) :=
  table.insert key ((table.get? key).getD [] ++ [value])

/-- Other keys are found as before when one is left out. -/
theorem lookup_filter_ne {key other : κ} (h : other ≠ key) (entries : List (κ × α)) :
    (entries.filter (·.1 ≠ key)).lookup other = entries.lookup other := by
  induction entries with
  | nil => rfl
  | cons entry rest ih =>
    by_cases hentry : entry.1 = key
    · have hother : (other == entry.1) = false := by
        rw [hentry]
        exact beq_false_of_ne h
      rw [List.filter_cons_of_neg (by simpa using hentry), ih, List.lookup_cons, hother]
    · rw [List.filter_cons_of_pos (by simpa using hentry), List.lookup_cons, List.lookup_cons, ih]

/-- The last value that was put under a key counts. -/
theorem get?_insert (key other : κ) (value : α) (table : Table κ α) :
    (table.insert key value).get? other = if other = key then some value else table.get? other := by
  by_cases h : other = key
  · rw [if_pos h, h]
    exact List.lookup_cons_self
  · rw [if_neg h, get?, insert, List.lookup_cons, beq_false_of_ne h]
    exact lookup_filter_ne h table.entries

/-- The values under a key, none where nothing has been put. -/
theorem getD_push (key other : κ) (value : α) (table : Table κ (List α)) :
    ((table.push key value).get? other).getD []
      = (table.get? other).getD [] ++ if other = key then [value] else [] := by
  rw [push, get?_insert]
  by_cases h : other = key
  · rw [if_pos h, if_pos h, h, Option.getD_some]
  · rw [if_neg h, if_neg h, List.append_nil]

/-- A value that is put under several keys, each of them once, stands behind what was under each of
    them, and nowhere else. -/
theorem getD_foldl_push {keys : List κ} (hkeys : keys.Nodup) (other : κ) (value : α)
    (table : Table κ (List α)) :
    ((keys.foldl (fun table key => table.push key value) table).get? other).getD []
      = (table.get? other).getD [] ++ if other ∈ keys then [value] else [] := by
  induction keys generalizing table with
  | nil => simp
  | cons key rest ih =>
    obtain ⟨hnew, hrest⟩ := List.nodup_cons.mp hkeys
    rw [List.foldl_cons, ih hrest, getD_push]
    by_cases h : other = key
    · have hother : other ∉ rest := h ▸ hnew
      rw [if_pos h, if_neg hother, if_pos (h ▸ List.mem_cons_self), List.append_nil]
    · simp [h]

end Table

end BilingualLessons
