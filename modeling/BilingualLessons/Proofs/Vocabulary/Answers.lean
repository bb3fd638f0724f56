import BilingualLessons.Vocabulary.Sample
import Mathlib.Data.List.Basic
import Mathlib.Data.List.Perm.Basic
import Mathlib.Data.List.Perm.Subperm

namespace BilingualLessons.Vocabulary

/-!
# What a store answers

* `mem_pool_iff`, `mem_byCategory`, `mem_search` — the items of an answer are items of the store
  that meet the question.
* `length_byCategory_le`, `length_search_le` — there are no more of them than were asked for.
* `Samples` — a way to take a sample from a pool, each element once; `sampleBy_samples` — picking
  positions is one, whichever are picked.
-/

variable {σ α : Type}

/-! ### Samples -/

/-- A way to take as many elements as told from a pool, or all of it where there are fewer, and no
    element more often than it is there. -/
def Samples (draw : Nat → List α → StateM σ (List α)) : Prop :=
  ∀ count pool s, ((draw count pool).run s).1.Subperm pool ∧
    ((draw count pool).run s).1.length = min count pool.length

/-- Taking the first elements is a way to sample. -/
theorem drawFirst_samples : Samples (drawFirst : Nat → List Item → StateM σ (List Item)) :=
  fun count pool _ => ⟨(List.take_sublist count pool).subperm, List.length_take⟩

/-- One element is picked, and the others are a sample of what is left. -/
theorem exists_pick_of_sampleBy (pick : Nat → StateM σ Nat) (count : Nat) {pool : List α}
    (hpool : pool ≠ []) (s : σ) :
    ∃ position, ∃ h : position < pool.length, ∃ s',
      ((sampleBy pick (count + 1) pool).run s).1
        = pool[position] :: ((sampleBy pick count (pool.eraseIdx position)).run s').1 := by
  obtain ⟨first, others, rfl⟩ := List.exists_cons_of_ne_nil hpool
  have hposition : ((pick (first :: others).length).run s).1 % (first :: others).length
      < (first :: others).length := Nat.mod_lt _ (Nat.succ_pos _)
  have hpicked : (first :: others)[((pick (first :: others).length).run s).1
        % (first :: others).length]?.getD first
      = (first :: others)[((pick (first :: others).length).run s).1
        % (first :: others).length] := by
    rw [List.getElem?_eq_getElem hposition, Option.getD_some]
  exact ⟨_, hposition, ((pick (first :: others).length).run s).2, congrArg (· :: _) hpicked⟩

/-- Picking positions is a way to sample, whichever are picked. -/
theorem sampleBy_samples (pick : Nat → StateM σ Nat) :
    Samples (sampleBy pick : Nat → List α → StateM σ (List α)) := by
  -- the pool shrinks with every pick, so the induction is for all pools
  intro count
  induction count with
  | zero => exact fun pool s => ⟨List.nil_subperm, (Nat.zero_min pool.length).symm⟩
  | succ count ih =>
    intro pool s
    by_cases hpool : pool = []
    · subst hpool
      exact ⟨List.nil_subperm, rfl⟩
    · obtain ⟨position, hposition, s', hrun⟩ := exists_pick_of_sampleBy pick count hpool s
      obtain ⟨hrest, hlength⟩ := ih (pool.eraseIdx position) s'
      -- what is picked and what is left are the pool
      have hwhole : (pool[position] :: pool.eraseIdx position).Subperm pool :=
        (List.getElem_cons_eraseIdx_perm hposition).subperm
      rw [hrun]
      refine ⟨((List.subperm_cons _).mpr hrest).trans hwhole, ?_⟩
      rw [List.length_cons, hlength, List.length_eraseIdx_of_lt hposition]
      omega

/-! ### Answers -/

theorem inCategory_iff {item : Item} {category : String} :
    item.inCategory category = true ↔ category ∈ item.categories :=
  List.contains_iff_mem

namespace Store

variable {store : Store} {item : Item}

theorem mem_pool_iff {filter : Filter} :
    item ∈ store.pool filter ↔ item ∈ store.items ∧ filter.admits item = true :=
  List.mem_filter

/-- Items of a category are items of the store that are in it and pass the filter. -/
theorem mem_byCategory {category : String} {filter : Filter}
    (h : item ∈ store.byCategory category filter) :
    item ∈ store.items ∧ filter.admits item = true ∧ item.inCategory category = true := by
  have hall : item ∈ (store.pool filter).filter (·.inCategory category) := by
    unfold byCategory firstOf at h
    split at h
    · exact h
    · exact List.mem_of_mem_take h
  obtain ⟨hpool, hcategory⟩ := List.mem_filter.mp hall
  obtain ⟨hstored, hadmits⟩ := mem_pool_iff.mp hpool
  exact ⟨hstored, hadmits, hcategory⟩

theorem length_byCategory_le {category : String} {filter : Filter} {limit : Nat}
    (h : filter.limit = some limit) : (store.byCategory category filter).length ≤ limit := by
  simp only [byCategory, firstOf, h]
  exact List.length_take_le _ _

/-- The items of a page are items of the store that match the search. -/
theorem mem_search {search : Search} (h : item ∈ (store.search search).items) :
    item ∈ store.items ∧ search.admits item = true :=
  List.mem_filter.mp (List.mem_of_mem_drop (List.mem_of_mem_take h))

theorem length_search_le {search : Search} {limit : Nat} (h : search.limit = some limit) :
    (store.search search).items.length ≤ limit := by
  simp only [Store.search, h, Option.getD_some]
  exact List.length_take_le _ _

end Store

end BilingualLessons.Vocabulary
