import BilingualLessons.Lesson.Contextual
import BilingualLessons.Proofs.Lesson.Planning
import BilingualLessons.Proofs.Vocabulary.Answers
import Mathlib.Algebra.Order.Floor.Div

namespace BilingualLessons.Lesson

/-!
# The words of a lesson

Every way of putting a lesson together asks a store for words in its own manner.  In each of them
the words are of the requested level, and there are no more than the lesson may have.

* `firstPositive` — the number of words that is wished for first, zero being no wish.
* `Grouped` — words in one group for each category, in order.
* `ThematicWords`, `GrammarWords`, `ContextualWords` — what the words of a lesson are.
* `Planner.chooseWords_yields_thematic`, `Planner.exampleWords_yields`,
  `Planner.byCategory_yields` — a store in memory always has such words.
-/

open Vocabulary

variable {σ : Type}

/-! ### Limits -/

/-- The first number among the wishes that is larger than zero, or else the one at hand. -/
def firstPositive (wishes : List (Option Nat)) (atHand : Nat) : Nat :=
  (wishes.findSome? positive?).getD atHand

example : firstPositive [some 0, none, some 3, some 2] 10 = 3 := rfl

/-- What the request says counts before what the options say. -/
theorem itemLimit_eq (planner : Planner σ) (request : Request) (options : Options) :
    planner.itemLimit request options
      = firstPositive [request.criteria.limit, options.maxItems]
          planner.settings.defaultItemLimit := by
  simp only [Planner.itemLimit, firstPositive, List.findSome?_cons, List.findSome?_nil]
  cases positive? request.criteria.limit <;> cases positive? options.maxItems <;> rfl

theorem contextualLimit_eq (planner : Planner σ) (options : Options) :
    planner.contextualLimit options
      = firstPositive [options.maxItems] planner.settings.contextualItemLimit := by
  simp only [Planner.contextualLimit, firstPositive, List.findSome?_cons, List.findSome?_nil]
  cases positive? options.maxItems <;> rfl

/-! ### Groups -/

/-- The words come in groups, one for each category, in order; every word of a group is in its
    category, and no group has more than `size` words. -/
def Grouped (size : Nat) (categories : List String) (items : List Item) : Prop :=
  ∃ groups : List (List Item), items = groups.flatten ∧
    List.Forall₂ (fun category group =>
      group.length ≤ size ∧ ∀ item ∈ group, category ∈ item.categories) categories groups

theorem Grouped.nil (size : Nat) : Grouped size [] [] := ⟨[], rfl, .nil⟩

theorem Grouped.cons {size : Nat} {category : String} {categories : List String}
    {group items : List Item} (hlength : group.length ≤ size)
    (hgroup : ∀ item ∈ group, category ∈ item.categories) (h : Grouped size categories items) :
    Grouped size (category :: categories) (group ++ items) := by
  obtain ⟨groups, rfl, hgroups⟩ := h
  exact ⟨group :: groups, rfl, .cons ⟨hlength, hgroup⟩ hgroups⟩

/-- Groups with words left out at the end are groups. -/
theorem Grouped.take {size : Nat} {categories : List String} {items : List Item}
    (h : Grouped size categories items) (n : Nat) : Grouped size categories (items.take n) := by
  obtain ⟨groups, rfl, hgroups⟩ := h
  induction hgroups generalizing n with
  | nil =>
    rw [List.flatten_nil, List.take_nil]
    exact Grouped.nil size
  | @cons category group categories groups hfirst _ ih =>
    -- the first group is cut, and what it leaves to be taken comes from the others
    rw [List.flatten_cons, List.take_append]
    refine Grouped.cons ?_ ?_ (ih (n - group.length))
    · exact (List.length_take_le' n group).trans hfirst.1
    · exact fun item hitem => hfirst.2 item (List.mem_of_mem_take hitem)

/-- Every word is in one of the categories. -/
theorem Grouped.exists_category {size : Nat} {categories : List String} {items : List Item}
    (h : Grouped size categories items) {item : Item} (hitem : item ∈ items) :
    ∃ category ∈ categories, category ∈ item.categories := by
  obtain ⟨groups, rfl, hgroups⟩ := h
  induction hgroups with
  | nil => exact absurd hitem (by simp)
  | @cons category group categories groups hfirst _ ih =>
    rw [List.flatten_cons, List.mem_append] at hitem
    rcases hitem with hgroup | hrest
    · exact ⟨category, List.mem_cons_self, hfirst.2 item hgroup⟩
    · obtain ⟨other, hother, hin⟩ := ih hrest
      exact ⟨other, List.mem_cons_of_mem _ hother, hin⟩

/-! ### Words of a level -/

section

variable {level : Level} {item : Item}

theorem gradeFilter_admits_iff {limit : Option Nat} :
    (gradeFilter level limit).admits item = true ↔ item.difficulty = level.number := by
  simp [gradeFilter, Filter.admits, meets]

theorem gradeSearch_admits_iff {part : PartOfSpeech} {limit : Nat} :
    (gradeSearch level part limit).admits item = true ↔
      item.partOfSpeech = part.name ∧ item.difficulty = level.number := by
  simp [gradeSearch, Search.admits, meets]

theorem isWanted_iff {part? : Option PartOfSpeech} :
    isWanted part? item = true ↔ ∀ part ∈ part?, item.part = part.name := by
  cases part? <;> simp [isWanted]

end

/-- The words are items of the store and of the level. -/
def OfLevel (store : Store) (level : Level) (items : List Item) : Prop :=
  ∀ item ∈ items, item ∈ store.items ∧ item.difficulty = level.number

/-- The words of a lesson around a theme. -/
structure ThematicWords (store : Store) (request : Request) (limit : Nat) (items : List Item) :
    Prop where
  ofLevel : OfLevel store request.level items
  bounded : items.length ≤ limit
  grouped : request.criteria.categories ≠ [] →
    Grouped (limit ⌈/⌉ request.criteria.categories.length) request.criteria.categories items
  /-- The part of speech is the one that lessons go by, with mistakes of the data mended. -/
  labelled : ∀ part ∈ request.criteria.partOfSpeech, ∀ item ∈ items, item.part = part.name

/-- The words of a lesson on a rule, which is about these classes of words. -/
structure GrammarWords (store : Store) (request : Request) (limit : Nat)
    (part? : Option PartOfSpeech) (items : List Item) : Prop where
  ofLevel : OfLevel store request.level items
  bounded : items.length ≤ limit
  /-- The part of speech is the one of the data. -/
  labelled : ∀ part ∈ part?, ∀ item ∈ items, item.partOfSpeech = part.name

/-- The words of a lesson around one category. -/
structure ContextualWords (store : Store) (request : Request) (limit : Nat) (category : String)
    (items : List Item) : Prop where
  ofLevel : OfLevel store request.level items
  bounded : items.length ≤ limit
  inCategory : ∀ item ∈ items, category ∈ item.categories

/-! ### The words of a store -/

namespace Planner

variable {planner : Planner σ} {store : Store}
  {draw : Nat → List Item → StateM σ (List Item)}
  (hstore : planner.provider = store.provider draw)
include hstore

/-- A sample has the size that was asked for at most, and words of the level only. -/
theorem sample_yields (hdraw : Samples draw) (count : Nat) (level : Level) :
    (ask (planner.provider.sample count (gradeFilter level none))).Yields fun items =>
      OfLevel store level items ∧ items.length ≤ count := by
  intro s
  refine ⟨_, _, ask_sample hstore count _ s, fun item hitem => ?_, ?_⟩
  · have hpool := (hdraw count (store.pool (gradeFilter level none)) s).1.subset hitem
    obtain ⟨hstored, hadmits⟩ := Store.mem_pool_iff.mp hpool
    exact ⟨hstored, gradeFilter_admits_iff.mp hadmits⟩
  · rw [(hdraw count _ s).2]
    exact Nat.min_le_left _ _

/-- A page has as many words as it holds at most, of the level and the part of speech only. -/
theorem search_yields (level : Level) (part : PartOfSpeech) (limit : Nat) :
    (ask (planner.provider.search (gradeSearch level part limit))).Yields fun page =>
      OfLevel store level page.items ∧ page.items.length ≤ limit ∧
        ∀ item ∈ page.items, item.partOfSpeech = part.name := by
  intro s
  have hitems : ∀ item ∈ (store.search (gradeSearch level part limit)).items,
      item ∈ store.items ∧ item.partOfSpeech = part.name ∧ item.difficulty = level.number := by
    intro item hitem
    obtain ⟨hstored, hadmits⟩ := Store.mem_search hitem
    exact ⟨hstored, gradeSearch_admits_iff.mp hadmits⟩
  -- a search of the store draws nothing, so the state is as before
  refine ⟨_, s, ask_search hstore _ s, fun item hitem => ?_, Store.length_search_le rfl, ?_⟩
  · exact ⟨(hitems item hitem).1, (hitems item hitem).2.2⟩
  · exact fun item hitem => (hitems item hitem).2.1

/-- The words of a category are in it and of the level, as many as asked for at most. -/
theorem byCategory_yields (request : Request) (category : String) (limit : Nat) :
    (ask (planner.provider.byCategory category (gradeFilter request.level (some limit)))).Yields
      (ContextualWords store request limit category) := by
  intro s
  refine ⟨_, s, ask_byCategory hstore category _ s, ⟨fun item hitem => ?_, ?_, ?_⟩⟩
  · obtain ⟨hstored, hadmits, -⟩ := Store.mem_byCategory hitem
    exact ⟨hstored, gradeFilter_admits_iff.mp hadmits⟩
  · exact Store.length_byCategory_le rfl
  · exact fun item hitem => inCategory_iff.mp (Store.mem_byCategory hitem).2.2

/-- Words of several categories come in groups, and only those that are wanted. -/
theorem categoryWords_yields (request : Request) (limit : Nat) (wanted : Item → Bool)
    (categories : List String) :
    (planner.categoryWords (gradeFilter request.level (some limit)) wanted categories).Yields
      fun items => OfLevel store request.level items ∧ Grouped limit categories items ∧
        ∀ item ∈ items, wanted item = true := by
  induction categories with
  | nil => exact .pure ⟨by simp [OfLevel], Grouped.nil limit, by simp⟩
  | cons category categories ih =>
    refine (byCategory_yields hstore request category limit).bind fun found hfound => ?_
    refine ih.bind fun others ⟨hlevel, hgrouped, hwanted⟩ => .pure ⟨?_, ?_, ?_⟩
    · intro item hitem
      rcases List.mem_append.mp hitem with hfirst | hrest
      · exact hfound.ofLevel item (List.mem_filter.mp hfirst).1
      · exact hlevel item hrest
    · -- leaving words out makes a group no larger
      refine Grouped.cons ((List.length_filter_le _ _).trans hfound.bounded) ?_ hgrouped
      exact fun item hitem => hfound.inCategory item (List.mem_filter.mp hitem).1
    · intro item hitem
      rcases List.mem_append.mp hitem with hfirst | hrest
      · exact (List.mem_filter.mp hfirst).2
      · exact hwanted item hrest

/-- Before the limit is applied the words are what they should be, the number apart. -/
theorem wordsUpTo_yields (hdraw : Samples draw) (request : Request) (limit : Nat) :
    (planner.wordsUpTo request limit).Yields fun items =>
      OfLevel store request.level items ∧
      (request.criteria.categories ≠ [] →
        Grouped (limit ⌈/⌉ request.criteria.categories.length) request.criteria.categories
          items) ∧
      ∀ part ∈ request.criteria.partOfSpeech, ∀ item ∈ items, item.part = part.name := by
  unfold wordsUpTo
  split
  · -- neither categories nor a part of speech: a sample of the level
    next hcategories hpart =>
    intro s
    obtain ⟨items, s', hrun, hlevel, -⟩ := sample_yields hstore hdraw limit request.level s
    refine ⟨items, s', hrun, hlevel, fun hsome => absurd hcategories hsome, fun part h => ?_⟩
    rw [hpart] at h
    cases h
  · -- a part of speech only: what is found under the label of the data, with mistakes left out
    next part hcategories hpart =>
    refine (search_yields hstore request.level part limit).bind fun page ⟨hlevel, _, _⟩ => ?_
    refine .pure ⟨fun item hitem => hlevel item (List.mem_filter.mp hitem).1,
      fun hsome => absurd hcategories hsome, fun part h item hitem => ?_⟩
    exact isWanted_iff.mp (List.mem_filter.mp hitem).2 part h
  · -- categories, with a part of speech or without
    have hshare : share limit request.criteria.categories.length
        = limit ⌈/⌉ request.criteria.categories.length := (Nat.ceilDiv_eq_add_pred_div ..).symm
    intro s
    obtain ⟨items, s', hrun, hlevel, hgrouped, hwanted⟩ :=
      categoryWords_yields hstore request (share limit request.criteria.categories.length)
        (isWanted request.criteria.partOfSpeech) request.criteria.categories s
    refine ⟨items, s', hrun, hlevel, fun _ => hshare ▸ hgrouped, fun part h item hitem => ?_⟩
    exact isWanted_iff.mp (hwanted item hitem) part h

/-- **Words around a theme.** -/
theorem chooseWords_yields_thematic (hdraw : Samples draw) (request : Request)
    (options : Options) :
    (planner.chooseWords request options).Yields
      (ThematicWords store request (planner.itemLimit request options)) := by
  refine (wordsUpTo_yields hstore hdraw request _).bind fun items ⟨hlevel, hgrouped, hpart⟩ => ?_
  exact .pure {
    ofLevel := fun item hitem => hlevel item (List.mem_of_mem_take hitem)
    bounded := List.length_take_le _ _
    grouped := fun hsome => (hgrouped hsome).take _
    labelled := fun part h item hitem => hpart part h item (List.mem_of_mem_take hitem) }

/-- **Words for a rule.** -/
theorem exampleWords_yields (hdraw : Samples draw) (request : Request)
    (concept? : Option Grammar.Concept) :
    (planner.exampleWords request concept?).Yields
      (GrammarWords store request planner.settings.grammarExampleCount
        (concept?.bind Grammar.Concept.primaryPart?)) := by
  unfold exampleWords
  -- with a class of words they are searched by it, without one they are a sample of the level
  split
  · next part hpart =>
    refine (search_yields hstore request.level part _).bind fun page ⟨hlevel, hsize, hlabel⟩ => ?_
    refine .pure ⟨hlevel, hsize, fun other hother => ?_⟩
    obtain rfl : part = other := Option.some.inj (hpart.symm.trans hother)
    exact hlabel
  · next hnone =>
    intro s
    obtain ⟨items, s', hrun, hlevel, hsize⟩ := sample_yields hstore hdraw
      planner.settings.grammarExampleCount request.level s
    refine ⟨items, s', hrun, hlevel, hsize, fun part h => ?_⟩
    rw [hnone] at h
    cases h

end Planner

end BilingualLessons.Lesson
