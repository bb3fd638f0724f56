import BilingualLessons.Proofs.Lesson.Selection
import Mathlib.Algebra.Order.BigOperators.Group.List

namespace BilingualLessons.Lesson

/-!
# The shares of categories

A request for words of several categories gives each of them an equal share of the limit, rounded
up.  The shares together can be more than the limit, and what is too much is taken from the last
categories: for a limit of four, each of three categories has a share of two, and the third one is
left with nothing.

* `exists_mem_take_flatMap`, `length_flatMap_take` — lists put together from the first elements of
  others.
* `specimens` — a vocabulary in which every category has its share, and no word is in two of them.
* `exists_word_of_room`, `exists_word_of_every`, `exists_store_that_starves` — the categories with a
  word within the limit.
* `Planner.withStore` — a planner with another vocabulary.
* `Planner.no_category_is_starved_iff` — which categories have a word in the lesson; and for which
  limits all of them do, whatever the vocabulary is.
-/

open Vocabulary

variable {σ : Type}

/-! ### Lists put together -/

section

variable {α β : Type}

/-- If what comes before does not use up a limit, the first element behind it is within. -/
theorem exists_mem_take_flatMap (f : β → List α) {before : List β} {b : β} {n : Nat}
    (hb : f b ≠ []) (hroom : (before.flatMap f).length < n) (after : List β) :
    ∃ a ∈ f b, a ∈ ((before ++ b :: after).flatMap f).take n := by
  obtain ⟨a, rest, hcons⟩ := List.exists_cons_of_ne_nil hb
  -- at least one place is left behind what comes before
  have hleft : n - (before.flatMap f).length = (n - (before.flatMap f).length - 1) + 1 := by omega
  refine ⟨a, by simp [hcons], ?_⟩
  rw [List.flatMap_append, List.flatMap_cons, List.take_append, hcons, hleft, List.cons_append,
    List.take_succ_cons]
  exact List.mem_append_right _ List.mem_cons_self

/-- The first elements of several lists, as many as `size` of each. -/
theorem length_flatMap_take (f : β → List α) (size : Nat) (bs : List β) :
    (bs.flatMap fun b => (f b).take size).length
      = (bs.map fun b => min size (f b).length).sum := by
  simp only [List.length_flatMap, List.length_take]

/-- A list without doubles that is not empty has a last element, and has it nowhere else. -/
theorem exists_last_of_nodup {l : List α} (hsome : l ≠ []) (hdistinct : l.Nodup) :
    ∃ before last, l = before ++ [last] ∧ last ∉ before := by
  obtain hnone | ⟨before, last, hsplit⟩ := List.eq_nil_or_concat' l
  · exact absurd hnone hsome
  · refine ⟨before, last, hsplit, fun hmem => ?_⟩
    rw [hsplit, List.nodup_append] at hdistinct
    exact hdistinct.2.2 last hmem last List.mem_cons_self rfl

/-- No list gives more than `size` elements. -/
theorem sum_min_le (f : β → List α) (size : Nat) (bs : List β) :
    (bs.map fun b => min size (f b).length).sum ≤ bs.length * size := by
  have hle : ∀ taken ∈ bs.map fun b => min size (f b).length, taken ≤ size := by
    simp
  simpa using List.sum_le_card_nsmul _ size hle

/-- If every list has so many elements, `size` of each are taken. -/
theorem sum_min_eq {f : β → List α} {size : Nat} {bs : List β}
    (h : ∀ b ∈ bs, size ≤ (f b).length) :
    (bs.map fun b => min size (f b).length).sum = bs.length * size := by
  have heq : (bs.map fun b => min size (f b).length) = bs.map fun _ => size :=
    List.map_congr_left fun b hb => Nat.min_eq_left (h b hb)
  rw [heq, List.map_const', List.sum_replicate, smul_eq_mul]

end

/-! ### Words of every category -/

/-- A word that is in one category only. -/
def specimen (level : Level) (category : String) : Item where
  id := category
  german := category
  bulgarian := category
  partOfSpeech := "noun"
  difficulty := level.number
  categories := [category]

/-- A vocabulary with `size` words in each of the categories. -/
def specimens (level : Level) (size : Nat) (categories : List String) : Store :=
  ⟨categories.flatMap fun category => List.replicate size (specimen level category)⟩

section

variable {level : Level} {size : Nat} {categories : List String} {category : String} {item : Item}

/-- A word of a category is its specimen. -/
theorem eq_specimen_of_mem_gradedIn
    (h : item ∈ gradedIn (specimens level size categories) level category) :
    item = specimen level category := by
  obtain ⟨hgraded, hcategory⟩ := (mem_gradedIn_iff ..).mp h
  obtain ⟨hstored, -⟩ := (mem_graded_iff ..).mp hgraded
  obtain ⟨other, -, hother⟩ := List.mem_flatMap.mp hstored
  obtain rfl := List.eq_of_mem_replicate hother
  obtain rfl : category = other := List.mem_singleton.mp hcategory
  rfl

/-- Every category has its words. -/
theorem le_length_gradedIn_specimens (h : category ∈ categories) :
    size ≤ (gradedIn (specimens level size categories) level category).length := by
  obtain ⟨before, after, rfl⟩ := List.append_of_mem h
  have hwords : (List.replicate size (specimen level category)).Sublist
      (specimens level size (before ++ category :: after)).items := by
    rw [specimens, List.flatMap_append, List.flatMap_cons]
    exact (List.sublist_append_left _ _).trans (List.sublist_append_right _ _)
  have hfound := ((hwords.filter (·.difficulty = level.number)).filter
    (category ∈ ·.categories)).length_le
  have hall : ((List.replicate size (specimen level category)).filter
      (·.difficulty = level.number)).filter (category ∈ ·.categories)
        = List.replicate size (specimen level category) := by
    simp [specimen]
  rw [hall, List.length_replicate] at hfound
  exact hfound

end

/-! ### Categories with a word in the lesson -/

section

variable {request : Request} (hpart : request.criteria.partOfSpeech = none) {limit : Nat}
include hpart

/-- Without a class, a category gives all of its share. -/
theorem categoryShares_of_no_part (store : Store) (limit : Nat) :
    categoryShares store request limit
      = request.criteria.categories.flatMap fun category =>
        (gradedIn store request.level category).take
          (limit ⌈/⌉ request.criteria.categories.length) := by
  have hall : isWanted none = fun _ => true := rfl
  simp only [categoryShares, hpart, hall, List.filter_true]

/-- A category has a word within the limit if those before it leave room. -/
theorem exists_word_of_room {store : Store} {before after : List String} {category : String}
    (hsplit : request.criteria.categories = before ++ category :: after)
    (hsome : gradedIn store request.level category ≠ [])
    (hroom : (before.map fun earlier =>
      min (limit ⌈/⌉ request.criteria.categories.length)
        (gradedIn store request.level earlier).length).sum < limit) :
    ∃ item ∈ (categoryShares store request limit).take limit, category ∈ item.categories := by
  have hsize : 0 < limit ⌈/⌉ request.criteria.categories.length := by
    rw [Nat.ceilDiv_eq_add_pred_div, hsplit, List.length_append, List.length_cons]
    exact Nat.div_pos (by omega) (by omega)
  have hshare : (gradedIn store request.level category).take
      (limit ⌈/⌉ request.criteria.categories.length) ≠ [] := by
    rw [ne_eq, List.take_eq_nil_iff, not_or]
    exact ⟨Nat.ne_of_gt hsize, hsome⟩
  -- what the earlier categories give is as long as the sum of what they can give of their shares
  rw [← length_flatMap_take] at hroom
  obtain ⟨item, hitem, hwithin⟩ := exists_mem_take_flatMap
    (fun category => (gradedIn store request.level category).take
      (limit ⌈/⌉ request.criteria.categories.length)) hshare hroom after
  rw [← hsplit, ← categoryShares_of_no_part hpart] at hwithin
  exact ⟨item, hwithin, ((mem_gradedIn_iff ..).mp (List.mem_of_mem_take hitem)).2⟩

/-- The last category has no word within the limit if those before it use it up and share no word
    with it. -/
theorem no_word_of_last {before : List String} {last : String}
    (hsplit : request.criteria.categories = before ++ [last]) (hlast : last ∉ before)
    (hfull : limit ≤ before.length * (limit ⌈/⌉ request.criteria.categories.length))
    {item : Item}
    (hitem : item ∈ (categoryShares (specimens request.level
      (limit ⌈/⌉ request.criteria.categories.length + 1) request.criteria.categories)
        request limit).take limit) :
    last ∉ item.categories := by
  rw [categoryShares_of_no_part hpart] at hitem
  generalize hsize : limit ⌈/⌉ request.criteria.categories.length = size at hfull hitem
  rw [hsplit, List.flatMap_append] at hitem
  have hshares : ∀ category ∈ before,
      size ≤ (gradedIn (specimens request.level (size + 1) (before ++ [last]))
        request.level category).length := fun category hcategory =>
    (Nat.le_succ size).trans (le_length_gradedIn_specimens (List.mem_append_left _ hcategory))
  have hused := (length_flatMap_take (gradedIn (specimens request.level (size + 1)
    (before ++ [last])) request.level) size before).trans (sum_min_eq hshares)
  -- the limit lies within the shares of the others, whose specimens are not in the last category
  rw [List.take_append_of_le_length (hused ▸ hfull)] at hitem
  obtain ⟨category, hcategory, hword⟩ := List.mem_flatMap.mp (List.mem_of_mem_take hitem)
  obtain rfl := eq_specimen_of_mem_gradedIn (List.mem_of_mem_take hword)
  intro hin
  obtain rfl : last = category := List.mem_singleton.mp hin
  exact hlast hcategory

/-- Every category has a word within the limit if the shares of all but one are less than it. -/
theorem exists_word_of_every {store : Store}
    (hstored : ∀ category ∈ request.criteria.categories,
      gradedIn store request.level category ≠ [])
    (hroom : (request.criteria.categories.length - 1)
      * (limit ⌈/⌉ request.criteria.categories.length) < limit) :
    ∀ category ∈ request.criteria.categories,
      ∃ item ∈ (categoryShares store request limit).take limit, category ∈ item.categories := by
  intro category hcategory
  obtain ⟨before, after, hsplit⟩ := List.append_of_mem hcategory
  have hbefore : before.length ≤ request.criteria.categories.length - 1 := by
    rw [hsplit, List.length_append, List.length_cons]
    omega
  have hused := (sum_min_le (gradedIn store request.level)
    (limit ⌈/⌉ request.criteria.categories.length) before).trans
      (Nat.mul_le_mul_right _ hbefore)
  exact exists_word_of_room hpart hsplit (hstored category hcategory) (hused.trans_lt hroom)

/-- If the shares of all but one are not less than the limit, there is a vocabulary with words of
    every category and a category without a word within the limit. -/
theorem exists_store_that_starves (hsome : request.criteria.categories ≠ [])
    (hdistinct : request.criteria.categories.Nodup)
    (hfull : limit ≤ (request.criteria.categories.length - 1)
      * (limit ⌈/⌉ request.criteria.categories.length)) :
    ∃ store, (∀ category ∈ request.criteria.categories,
        gradedIn store request.level category ≠ []) ∧
      ∃ category ∈ request.criteria.categories,
        ∀ item ∈ (categoryShares store request limit).take limit,
          category ∉ item.categories := by
  obtain ⟨before, last, hsplit, hlast⟩ := exists_last_of_nodup hsome hdistinct
  have hbefore : request.criteria.categories.length - 1 = before.length := by
    rw [hsplit, List.length_append, List.length_singleton, Nat.add_sub_cancel]
  have hmem : last ∈ request.criteria.categories := by
    rw [hsplit]
    exact List.mem_append_right _ List.mem_cons_self
  -- more than enough words in each category, none of them in two
  refine ⟨specimens request.level (limit ⌈/⌉ request.criteria.categories.length + 1)
    request.criteria.categories, fun category hcategory => ?_, last, hmem, fun item hitem => ?_⟩
  · have hlength : limit ⌈/⌉ request.criteria.categories.length + 1 ≤
        (gradedIn (specimens _ _ _) request.level category).length :=
      le_length_gradedIn_specimens hcategory
    exact List.ne_nil_of_length_pos ((Nat.succ_pos _).trans_le hlength)
  · exact no_word_of_last hpart hsplit hlast (hbefore ▸ hfull) hitem

end

namespace Planner

/-- A planner with another vocabulary. -/
def withStore (planner : Planner σ) (store : Store)
    (draw : Nat → List Item → StateM σ (List Item)) : Planner σ :=
  { planner with provider := store.provider draw }

/-- **No category is starved.** In a lesson of several categories and of no class, a category has a
    word if those before it leave room, each of them taking its share as far as it has words. All
    categories have a word, whatever the vocabulary is, exactly if the shares of all but one of
    them are less than the limit. -/
theorem no_category_is_starved_iff [Nonempty σ] (planner : Planner σ)
    (draw : Nat → List Item → StateM σ (List Item)) (request : Request)
    (hkind : request.kind = .vocabulary) (hpart : request.criteria.partOfSpeech = none)
    (hdistinct : request.criteria.categories.Nodup) (options : Options) :
    let limit := firstPositive [request.criteria.limit, options.maxItems]
      planner.settings.defaultItemLimit
    let categories := request.criteria.categories
    let size := limit ⌈/⌉ categories.length
    (∀ store before category after, categories = before ++ category :: after →
      gradedIn store request.level category ≠ [] →
      (before.map fun earlier =>
        min size (gradedIn store request.level earlier).length).sum < limit →
      (planner.withStore store draw).Teaches request options fun words =>
        ∃ item ∈ words, category ∈ item.categories) ∧
    ((∀ store, (∀ category ∈ categories, gradedIn store request.level category ≠ []) →
      (planner.withStore store draw).Teaches request options fun words =>
        ∀ category ∈ categories, ∃ item ∈ words, category ∈ item.categories) ↔
      categories = [] ∨ (categories.length - 1) * size < limit) := by
  intro limit categories size
  have hwords : categories ≠ [] → ∀ store,
      ((planner.withStore store draw).chooseWords request options).Yields
        (· = (categoryShares store request limit).take limit) := by
    intro hsome store
    have hlimit : (planner.withStore store draw).itemLimit request options = limit :=
      itemLimit_eq planner request options
    have hstore : (planner.withStore store draw).provider = store.provider draw := rfl
    have hchosen := chooseWords_yields_of_categories hstore hsome options
    rwa [hlimit] at hchosen
  refine ⟨fun store before category after hsplit hfound hroom => ?_, fun hall => ?_, ?_⟩
  · have hsome : categories ≠ [] := by simp [hsplit]
    refine teaches_of_yields hkind ((hwords hsome store).imp fun words hchosen => ?_)
    rw [hchosen]
    exact exists_word_of_room hpart hsplit hfound hroom
  · by_contra hcase
    obtain ⟨hsome, hfull⟩ := not_or.mp hcase
    obtain ⟨store, hstored, category, hcategory, hstarved⟩ :=
      exists_store_that_starves hpart hsome hdistinct (Nat.not_lt.mp hfull)
    obtain ⟨s⟩ := ‹Nonempty σ›
    obtain ⟨words, s₁, -, hrun, hrepresented, -⟩ := hall store hstored s
    obtain rfl := (hwords hsome store).of_run hrun
    obtain ⟨item, hitem, hin⟩ := hrepresented category hcategory
    exact hstarved item hitem hin
  · intro hcase store hstored
    by_cases hnone : categories = []
    · have hfound :
          ((planner.withStore store draw).chooseWords request options).Yields fun _ => True :=
        (chooseWords_yields rfl request options).imp fun _ _ => trivial
      refine teaches_of_yields hkind (hfound.imp fun words _ category hcategory => ?_)
      exact absurd (hnone ▸ hcategory) List.not_mem_nil
    · refine teaches_of_yields hkind ((hwords hnone store).imp fun words hchosen => ?_)
      rw [hchosen]
      exact exists_word_of_every hpart hstored (hcase.resolve_left hnone)

/-- For a limit of three, the share of two categories is two: each of them has a word, also the one
    that comes last. -/
theorem no_category_is_starved_of_two :
    let store : Store := ⟨[⟨"brot", "Brot", "хляб", "noun", 1, ["food"], none, []⟩,
      ⟨"apfel", "Apfel", "ябълка", "noun", 1, ["food"], none, []⟩,
      ⟨"zug", "Zug", "влак", "noun", 1, ["travel"], none, []⟩]⟩
    let planner := bare store
    let request : Request := {
      level := .a1, criteria := { categories := ["food", "travel"], limit := some 3 } }
    request.kind = .vocabulary ∧ request.criteria.partOfSpeech = none ∧
      request.criteria.categories.Nodup ∧
      (planner.withStore store drawFirst).Teaches request {} fun words =>
        ∀ category ∈ ["food", "travel"], ∃ item ∈ words, category ∈ item.categories := by
  intro store planner request
  have hdistinct : request.criteria.categories.Nodup := by decide
  have hstored : ∀ category ∈ request.criteria.categories,
      gradedIn store request.level category ≠ [] := by
    decide +kernel
  have hroom : (2 - 1) * (3 ⌈/⌉ 2) < 3 := by
    rw [Nat.ceilDiv_eq_add_pred_div]
    decide
  refine ⟨rfl, rfl, hdistinct, ?_⟩
  exact (no_category_is_starved_iff planner drawFirst request rfl rfl hdistinct {}).2.mpr
    (.inr hroom) store hstored

/-- For a limit of four, two categories take the share of the third one. -/
theorem third_category_is_starved :
    let store : Store := ⟨[⟨"brot", "Brot", "хляб", "noun", 1, ["food"], none, []⟩,
      ⟨"apfel", "Apfel", "ябълка", "noun", 1, ["food"], none, []⟩,
      ⟨"zug", "Zug", "влак", "noun", 1, ["travel"], none, []⟩,
      ⟨"bus", "Bus", "автобус", "noun", 1, ["travel"], none, []⟩,
      ⟨"haus", "Haus", "къща", "noun", 1, ["home"], none, []⟩]⟩
    let planner := bare store
    let request : Request := {
      level := .a1, criteria := { categories := ["food", "travel", "home"], limit := some 4 } }
    (∀ category ∈ request.criteria.categories, gradedIn store .a1 category ≠ []) ∧
      request.criteria.categories.Nodup ∧ request.criteria.categories.length ≤ 4 ∧
      ∃ lesson, (planner.lesson request {}).run () = (.ok lesson, ()) ∧
        ¬ ∀ category ∈ request.criteria.categories,
          ∃ item ∈ lesson.vocabulary, category ∈ item.categories := by
  intro store planner request
  have hstored : ∀ category ∈ request.criteria.categories, gradedIn store .a1 category ≠ [] := by
    decide +kernel
  have hfour : ((planner.lesson request {}).run ()).1.toOption.map (·.vocabulary)
      = some (store.items.take 4) := by
    decide +kernel
  refine ⟨hstored, by decide, by decide, ?_⟩
  obtain ⟨lesson, hrun, hwords⟩ := exists_lesson_of_vocabulary hfour
  refine ⟨lesson, hrun, ?_⟩
  rw [hwords]
  decide +kernel

end Planner

end BilingualLessons.Lesson
