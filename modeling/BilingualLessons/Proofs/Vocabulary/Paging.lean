import BilingualLessons.Proofs.Vocabulary.Answers
import Mathlib.Algebra.Order.Floor.Div

namespace BilingualLessons.Vocabulary

/-!
# Page after page

A search answers with one page of its matches and says whether there are more.  Whoever asks again
from where the page ends, for as long as there are more, is shown every match once.

* `Search.Matches` — what an item has to be like; `hits_eq` — the matches of a search are the items
  of the store that are like that.
* `Store.Browses` — the pages that come of asking again; `exists_browses` and `Browses.unique` —
  there is always an end to it, and only one way there.
* `Shows` — pages that show some matches; `Browses.shows` — the pages of a search show what stands
  behind its offset.
* `pages_show_every_match_once` — the pages of a search from its beginning.
-/

/-! ### Matches -/

/-- A text stands somewhere in another one if its characters are consecutive there. -/
theorem occursIn_iff {part whole : String} :
    Text.occursIn part whole = true ↔ part.toList <:+: whole.toList := by
  unfold Text.occursIn
  induction whole.toList with
  | nil => simp [Text.isInfix]
  | cons c rest ih => simp [Text.isInfix, ih, List.infix_cons_iff]

/-- What an item has to be like to match a search, as far as the search says something. -/
structure Search.Matches (search : Search) (item : Item) : Prop where
  /-- One of the words holds the text, whatever the case. -/
  query : ∀ query ∈ search.query, ∃ word ∈ [item.german, item.bulgarian],
    (Text.lowerText query).toList <:+: (Text.lowerText word).toList
  partOfSpeech : ∀ part ∈ search.partOfSpeech, item.partOfSpeech = part
  difficulty : ∀ grade ∈ search.difficulty, item.difficulty = grade
  categories : search.categories ≠ [] → ∃ category ∈ item.categories, category ∈ search.categories

/-- A wish is met if what it wishes for, if anything, is true. -/
theorem meets_iff {α : Type} {wish : Option α} {p : α → Bool} :
    meets wish p = true ↔ ∀ a ∈ wish, p a = true := by
  cases wish <;> simp [meets]

theorem Item.mentions_iff {item : Item} {query : String} :
    item.mentions query = true ↔ ∃ word ∈ [item.german, item.bulgarian],
      (Text.lowerText query).toList <:+: (Text.lowerText word).toList := by
  simp [Item.mentions, occursIn_iff]

theorem Search.admits_iff_matches {search : Search} {item : Item} :
    search.admits item = true ↔ search.Matches item := by
  have hcategories : (search.categories.isEmpty || item.categories.any search.categories.contains)
      = true ↔ (search.categories ≠ [] → ∃ category ∈ item.categories,
        category ∈ search.categories) := by
    by_cases hnone : search.categories = [] <;> simp [hnone]
  simp only [Search.admits, Bool.and_eq_true, meets_iff, Item.mentions_iff, hcategories,
    beq_iff_eq]
  constructor
  · rintro ⟨⟨⟨hquery, hpart⟩, hgrade⟩, hcategory⟩
    exact ⟨hquery, hpart, hgrade, hcategory⟩
  · rintro ⟨hquery, hpart, hgrade, hcategory⟩
    exact ⟨⟨⟨hquery, hpart⟩, hgrade⟩, hcategory⟩

instance (search : Search) : DecidablePred search.Matches := fun _ =>
  decidable_of_iff _ search.admits_iff_matches

namespace Store

variable {store : Store} {search : Search} {limit : Nat}

/-- The hits of a search are the items that match it, in the order of the store. -/
theorem hits_eq (store : Store) (search : Search) :
    store.hits search = store.items.filter (search.Matches ·) := by
  refine List.filter_congr fun item _ => Bool.eq_iff_iff.mpr ?_
  rw [Search.admits_iff_matches, decide_eq_true_iff]

/-! ### One page -/

/-- A page has as many of the hits behind the offset as the limit says. -/
theorem items_search (hlimit : search.limit = some limit) :
    (store.search search).items = ((store.hits search).drop search.offset).take limit := by
  simp only [Store.search, hlimit, Option.getD_some]

/-- There are more if the hits behind the offset are more than a page has. -/
theorem hasMore_search_iff (hlimit : search.limit = some limit) :
    (store.search search).hasMore = true ↔
      limit < ((store.hits search).drop search.offset).length := by
  simp only [Store.search, hlimit, Option.getD_some, decide_eq_true_iff, List.length_drop]
  omega

end Store

/-- The search that goes on behind `step` hits. -/
def Search.onward (search : Search) (step : Nat) : Search :=
  { search with offset := search.offset + step }

@[simp] theorem Search.limit_onward (search : Search) (step : Nat) :
    (search.onward step).limit = search.limit := rfl

/-- Where a search starts does not change what it is for. -/
@[simp] theorem Store.hits_onward (store : Store) (search : Search) (step : Nat) :
    store.hits (search.onward step) = store.hits search := rfl

/-- Going on leaves the hits behind what has been passed. -/
theorem Store.drop_onward (store : Store) (search : Search) (step : Nat) :
    (store.hits search).drop (search.onward step).offset
      = ((store.hits search).drop search.offset).drop step := by
  rw [List.drop_drop]
  rfl

/-! ### Asking again -/

/-- The pages of a search and of what goes on from it, step by step, until a page says that there
    are no more. -/
inductive Store.Browses (store : Store) (step : Nat) : Search → List Page → Prop
  | last {search : Search} (h : (store.search search).hasMore = false) :
    store.Browses step search [store.search search]
  | more {search : Search} {pages : List Page} (h : (store.search search).hasMore = true)
    (hpages : store.Browses step (search.onward step) pages) :
    store.Browses step search (store.search search :: pages)

namespace Store

variable {store : Store} {search : Search} {step limit : Nat} {pages others : List Page}

/-- What a page says decides whether another one is asked for. -/
theorem Browses.unique (h : store.Browses step search pages)
    (hothers : store.Browses step search others) : others = pages := by
  induction h generalizing others with
  | last hlast =>
    cases hothers with
    | last => rfl
    | more hmore => exact absurd (hlast.symm.trans hmore) (by simp)
  | more hmore _ ih =>
    cases hothers with
    | last hlast => exact absurd (hlast.symm.trans hmore) (by simp)
    | more _ hrest => rw [ih hrest]

/-- Pages that are not empty come to an end. -/
theorem exists_browses (store : Store) {search : Search} (hlimit : search.limit = some limit)
    (hpos : 1 ≤ limit) : ∃ pages, store.Browses limit search pages := by
  -- there are fewer and fewer hits behind the offset
  induction hleft : ((store.hits search).drop search.offset).length
    using Nat.strong_induction_on generalizing search with
  | _ left ih =>
    cases hmore : (store.search search).hasMore with
    | false => exact ⟨_, .last hmore⟩
    | true =>
      have hroom := (hasMore_search_iff hlimit).mp hmore
      have hfewer : ((store.hits (search.onward limit)).drop
          (search.onward limit).offset).length < left := by
        rw [hits_onward, drop_onward, List.length_drop, hleft]
        omega
      have honward := (search.limit_onward limit).trans hlimit
      obtain ⟨pages, hpages⟩ := ih _ hfewer honward rfl
      exact ⟨_, .more hmore hpages⟩

end Store

/-! ### What the pages show -/

/-- One page takes a part away, as long as there is more than that. -/
theorem ceilDiv_eq_succ {n limit : Nat} (hpos : 1 ≤ limit) (h : limit < n) :
    n ⌈/⌉ limit = (n - limit) ⌈/⌉ limit + 1 := by
  have hnumerator : n + limit - 1 = n - limit + limit - 1 + limit := by omega
  rw [Nat.ceilDiv_eq_add_pred_div, Nat.ceilDiv_eq_add_pred_div, hnumerator,
    Nat.add_div_right _ hpos]

/-- The pages show these matches of a search, in order and each of them once. They are as many as
    it takes, and one at least; all but the last are full. -/
structure Shows (total limit : Nat) (matching : List Item) (pages : List Page) : Prop where
  items : pages.flatMap (·.items) = matching
  length : pages.length = max 1 (matching.length ⌈/⌉ limit)
  total : ∀ page ∈ pages, page.total = total
  bounded : ∀ page ∈ pages, page.items.length ≤ limit
  full : ∀ page ∈ pages.dropLast, page.items.length = limit

section

variable {total limit : Nat} {matching : List Item} {page : Page} {pages : List Page}

/-- A page shows all that is left if that is not more than a page has. -/
theorem Shows.last (hpos : 1 ≤ limit) (hitems : page.items = matching.take limit)
    (htotal : page.total = total) (h : matching.length ≤ limit) :
    Shows total limit matching [page] where
  items := by
    rw [List.flatMap_singleton, hitems, List.take_of_length_le h]
  length := by
    have hone : matching.length ⌈/⌉ limit ≤ 1 :=
      (ceilDiv_le_iff_le_mul hpos).mpr (by rwa [Nat.mul_one])
    rw [Nat.max_eq_left hone, List.length_singleton]
  total := by simpa using htotal
  bounded := by
    rw [List.forall_mem_singleton, hitems]
    exact List.length_take_le limit matching
  full := by simp

/-- A full page shows the first matches, and further pages show the others. -/
theorem Shows.more (hpos : 1 ≤ limit) (hitems : page.items = matching.take limit)
    (htotal : page.total = total) (h : limit < matching.length)
    (hpages : Shows total limit (matching.drop limit) pages) :
    Shows total limit matching (page :: pages) where
  items := by
    rw [List.flatMap_cons, hitems, hpages.items, List.take_append_drop]
  length := by
    -- something is left, so the others need a page of their own
    have hleft : 1 ≤ (matching.length - limit) ⌈/⌉ limit := by
      refine Nat.lt_of_not_le fun hnone => ?_
      have hnothing := (ceilDiv_le_iff_le_mul hpos).mp hnone
      omega
    have hothers := hpages.length
    rw [List.length_drop, Nat.max_eq_right hleft] at hothers
    rw [List.length_cons, hothers, ceilDiv_eq_succ hpos h]
    exact (Nat.max_eq_right (Nat.succ_pos _)).symm
  total := List.forall_mem_cons.mpr ⟨htotal, hpages.total⟩
  bounded := by
    have hfirst : page.items.length ≤ limit := hitems ▸ List.length_take_le limit matching
    exact List.forall_mem_cons.mpr ⟨hfirst, hpages.bounded⟩
  full := by
    have hsome : pages ≠ [] := by
      intro hnone
      have hlength := hpages.length
      rw [hnone, List.length_nil] at hlength
      omega
    have hfull : page.items.length = limit := by
      rw [hitems, List.length_take, Nat.min_eq_left (Nat.le_of_lt h)]
    rw [List.dropLast_cons_of_ne_nil hsome]
    exact List.forall_mem_cons.mpr ⟨hfull, hpages.full⟩

end

/-- **Pages.** The pages of a search show the hits behind its offset. -/
theorem Store.Browses.shows {store : Store} {search : Search} {limit : Nat} {pages : List Page}
    (h : store.Browses limit search pages) (hlimit : search.limit = some limit)
    (hpos : 1 ≤ limit) :
    Shows (store.hits search).length limit ((store.hits search).drop search.offset) pages := by
  induction h with
  | last hlast =>
    refine Shows.last hpos (items_search hlimit) rfl (Nat.le_of_not_lt fun hmore => ?_)
    exact absurd (hlast.symm.trans ((hasMore_search_iff hlimit).mpr hmore)) (by simp)
  | more hmore _ ih =>
    have hothers := ih hlimit
    rw [hits_onward, drop_onward] at hothers
    exact Shows.more hpos (items_search hlimit) rfl ((hasMore_search_iff hlimit).mp hmore) hothers

/-- **Every match once.** With pages that have room for an item, a search from its beginning comes
    to an end, after as many pages as its matches need, and one at least. Put together, the pages
    are the matches in the order of the store; each page tells how many there are, and all but the
    last are full. -/
theorem pages_show_every_match_once (store : Store) (search : Search) {limit : Nat}
    (hlimit : search.limit = some limit) (hpos : 1 ≤ limit) :
    let matching := store.items.filter (search.Matches ·)
    ∃ pages, (∀ others, store.Browses limit { search with offset := 0 } others ↔ others = pages) ∧
      pages.length = max 1 (matching.length ⌈/⌉ limit) ∧
      pages.flatMap (·.items) = matching ∧
      (∀ page ∈ pages, page.total = matching.length) ∧
      (∀ page ∈ pages, page.items.length ≤ limit) ∧
      ∀ page ∈ pages.dropLast, page.items.length = limit := by
  intro matching
  have hbeginning : { search with offset := 0 }.limit = some limit := hlimit
  have hhits : store.hits { search with offset := 0 } = matching := store.hits_eq search
  obtain ⟨pages, hpages⟩ := store.exists_browses hbeginning hpos
  have hshown := hpages.shows hbeginning hpos
  rw [hhits, List.drop_zero] at hshown
  refine ⟨pages, fun others => ⟨hpages.unique, fun heq => heq ▸ hpages⟩, ?_⟩
  exact ⟨hshown.length, hshown.items, hshown.total, hshown.bounded, hshown.full⟩

/-- Four nouns on pages of two: there is no third page, and a verb between them is on none. -/
theorem pages_show_every_match_once_of_four :
    let noun (id : String) : Item := ⟨id, id, id, "noun", 1, [], none, []⟩
    let store : Store := ⟨[noun "brot", noun "apfel", ⟨"essen", "essen", "ям", "verb", 1, [],
      none, []⟩, noun "haus", noun "zug"]⟩
    let search : Search := { partOfSpeech := some "noun", limit := some 2 }
    search.limit = some 2 ∧ 1 ≤ 2 ∧
      ∃ pages, (∀ others, store.Browses 2 { search with offset := 0 } others ↔ others = pages) ∧
        pages.length = 2 ∧
        pages.flatMap (·.items) = [noun "brot", noun "apfel", noun "haus", noun "zug"] ∧
        (∀ page ∈ pages, page.total = 4) := by
  intro noun store search
  have hmatching : store.items.filter (search.Matches ·)
      = [noun "brot", noun "apfel", noun "haus", noun "zug"] := by
    decide +kernel
  have htwo : max 1 (4 ⌈/⌉ 2) = 2 := by
    rw [Nat.ceilDiv_eq_add_pred_div]
    decide
  have hpos : 1 ≤ 2 := by decide
  obtain ⟨pages, hpages, hlength, hitems, htotal, -⟩ :=
    pages_show_every_match_once store search rfl hpos
  rw [hmatching] at hlength hitems htotal
  exact ⟨rfl, hpos, pages, hpages, hlength.trans htwo, hitems, htotal⟩

end BilingualLessons.Vocabulary
