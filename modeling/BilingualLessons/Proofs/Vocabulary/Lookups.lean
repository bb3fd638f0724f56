import BilingualLessons.Proofs.Vocabulary.Paging

namespace BilingualLessons.Vocabulary

/-!
# Ways to look a category up

The items of a category can be asked for by its name, by a search for it, and as the pool of a
sample; and a filter can name a second category.  Whichever way is taken, the items are the same
and come in the order of the store.

* `Filter.admits_iff` — what an item has to be like to pass a filter.
* `pool_of_category`, `byCategory_eq`, `hits_of_category` — the items of a category in each of the
  ways.
* `lookups_agree` — the ways agree.
-/

variable {σ : Type} {category : String}

/-- An item passes a filter if it is of the grade and in the category, as far as the filter names
    them. -/
theorem Filter.admits_iff {filter : Filter} {item : Item} :
    filter.admits item = true ↔ (∀ grade ∈ filter.difficulty, item.difficulty = grade) ∧
      ∀ category ∈ filter.category, category ∈ item.categories := by
  simp only [Filter.admits, Bool.and_eq_true, meets_iff, beq_iff_eq, inCategory_iff]

namespace Store

variable (store : Store) (category : String) (difficulty : Option Nat)

/-- The pool of a category. -/
theorem pool_of_category :
    store.pool { difficulty, category := some category } = store.items.filter fun item =>
      (∀ grade ∈ difficulty, item.difficulty = grade) ∧ category ∈ item.categories := by
  refine List.filter_congr fun item _ => Bool.eq_iff_iff.mpr ?_
  rw [Filter.admits_iff, decide_eq_true_iff]
  simp

/-- A category is looked up in its pool, where a filter that names another one leaves the items of
    both. -/
theorem byCategory_eq (filter : Filter) :
    store.byCategory category filter = firstOf filter.limit
      ((store.pool { difficulty := filter.difficulty, category := some category }).filter
        fun item => ∀ other ∈ filter.category, other ∈ item.categories) := by
  rw [byCategory, pool, pool, List.filter_filter, List.filter_filter]
  refine congrArg (firstOf filter.limit) (List.filter_congr fun item _ => Bool.eq_iff_iff.mpr ?_)
  simp only [Bool.and_eq_true, Filter.admits_iff, inCategory_iff, decide_eq_true_iff]
  constructor
  · rintro ⟨hcategory, hgrade, hother⟩
    exact ⟨hother, hgrade, by simpa using hcategory⟩
  · rintro ⟨hother, hgrade, hcategory⟩
    exact ⟨by simpa using hcategory, hgrade, hother⟩

/-- A search for one category hits its pool, whatever its page is. -/
theorem hits_of_category (limit : Option Nat) :
    store.hits { categories := [category], difficulty, limit }
      = store.pool { difficulty, category := some category } := by
  rw [hits_eq, pool_of_category]
  refine List.filter_congr fun item _ => decide_eq_decide.mpr ?_
  constructor
  · rintro ⟨-, -, hgrade, hcategories⟩
    obtain ⟨found, hfound, hnamed⟩ := hcategories (List.cons_ne_nil _ _)
    obtain rfl : found = category := List.mem_singleton.mp hnamed
    exact ⟨hgrade, hfound⟩
  · rintro ⟨hgrade, hcategory⟩
    exact {
      query := by simp
      partOfSpeech := by simp
      difficulty := hgrade
      categories := fun _ => ⟨category, hcategory, List.mem_singleton_self category⟩ }

end Store

/-- **One category, looked up in three ways.** The items of a category, of one grade or of all, are
    those of the store, in its order. Up to a limit, a search for the category has the same ones on
    its page; without a limit it has a page of them all the same. They are what a sample of the
    category is drawn from. And of these items, a look-up whose filter names another category gives
    the first ones that are in both, as many as its limit says. -/
theorem lookups_agree (store : Store) (draw : Nat → List Item → StateM σ (List Item))
    (category : String) (difficulty : Option Nat) :
    let found := store.byCategory category { difficulty }
    found = store.items.filter (fun item =>
      (∀ grade ∈ difficulty, item.difficulty = grade) ∧ category ∈ item.categories) ∧
    (∀ limit, store.byCategory category { difficulty, limit := some limit }
      = (store.search { categories := [category], difficulty, limit := some limit }).items) ∧
    (store.search { categories := [category], difficulty }).items = found.take defaultPageSize ∧
    (∀ count, (store.provider draw).sample count { difficulty, category := some category }
      = do return .ok (← draw count found)) ∧
    ∀ other limit, store.byCategory category { difficulty, category := some other, limit }
      = Store.firstOf limit (found.filter (other ∈ ·.categories)) := by
  intro found
  -- a filter without a category of its own leaves the pool of the category as it is
  have hname : ∀ limit, store.byCategory category { difficulty, limit }
      = Store.firstOf limit (store.pool { difficulty, category := some category }) := by
    intro limit
    rw [Store.byCategory_eq]
    simp
  have hfound : found = store.pool { difficulty, category := some category } := hname none
  have hhits : ∀ limit, store.hits { categories := [category], difficulty, limit } = found :=
    fun limit => (store.hits_of_category category difficulty limit).trans hfound.symm
  refine ⟨?_, fun limit => ?_, ?_, fun count => ?_, fun other limit => ?_⟩
  · rw [hfound, Store.pool_of_category]
  · rw [hname, ← hfound, Store.items_search rfl, hhits]
    rfl
  · show ((store.hits { categories := [category], difficulty }).drop 0).take defaultPageSize = _
    rw [hhits, List.drop_zero]
  · rw [hfound]
    rfl
  · rw [Store.byCategory_eq, hfound]
    simp

end BilingualLessons.Vocabulary
