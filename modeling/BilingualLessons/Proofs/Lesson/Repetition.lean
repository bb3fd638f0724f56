import BilingualLessons.Proofs.Lesson.Conformity
import BilingualLessons.Proofs.Lesson.Selection
import Mathlib.Data.List.Nodup

namespace BilingualLessons.Lesson

/-!
# Words that are listed twice

A store without doubles gives no answer with doubles, and a sample takes every word once.  Only a
lesson of several categories puts answers together: a word that is in two of them comes with each,
as far as the limit goes.

* `nodup_take_flatMap_iff` — when lists put together and cut off are without doubles.
* `FromStore` — words of a store, none more often than it is there; `Planner.fromStore_of_lesson` —
  the words of every lesson whose words come in one answer.
* `shareOf` — what a category gives to a lesson.
* `Planner.no_word_is_listed_twice_iff` — the lessons that list no word twice.
-/

open Vocabulary

variable {σ : Type}

/-! ### Lists put together, up to a limit -/

section

variable {α β : Type}

/-- The places of a list with one element more are its places and the one behind them. -/
theorem forall_split_concat_iff {init : List β} {last : β} {P : List β → β → Prop} :
    (∀ before b after, init ++ [last] = before ++ b :: after → P before b) ↔
      (∀ before b after, init = before ++ b :: after → P before b) ∧ P init last := by
  constructor
  · intro h
    refine ⟨fun before b after hsplit => h before b (after ++ [last]) ?_, h init last [] rfl⟩
    rw [hsplit, List.append_assoc, List.cons_append]
  · rintro ⟨hinit, hlast⟩ before b after hsplit
    rcases List.eq_nil_or_concat' after with rfl | ⟨others, other, rfl⟩
    · obtain ⟨rfl, hone⟩ := List.append_inj' hsplit rfl
      obtain rfl : last = b := List.head_eq_of_cons_eq hone
      exact hlast
    · rw [← List.cons_append, ← List.append_assoc] at hsplit
      exact hinit before b others (List.append_inj' hsplit rfl).1

/-- Lists without doubles, put together up to a limit, are without doubles exactly if none of them
    has an element of an earlier one within the limit. -/
theorem nodup_take_flatMap_iff {f : β → List α} (hf : ∀ b, (f b).Nodup) (bs : List β) (n : Nat) :
    ((bs.flatMap f).take n).Nodup ↔ ∀ before b after, bs = before ++ b :: after →
      ∀ a ∈ (f b).take (n - (before.flatMap f).length), a ∉ before.flatMap f := by
  induction bs using List.reverseRecOn with
  | nil => simp
  | append_singleton init last ih =>
    have hlast : ((f last).take (n - (init.flatMap f).length)).Nodup :=
      (hf last).sublist (List.take_sublist _ _)
    -- if the last list has a place within the limit, nothing of the others is cut off
    have hothers : (∀ a ∈ (init.flatMap f).take n,
          ∀ b ∈ (f last).take (n - (init.flatMap f).length), a ≠ b) ↔
        ∀ a ∈ (f last).take (n - (init.flatMap f).length), a ∉ init.flatMap f := by
      rcases Nat.lt_or_ge (init.flatMap f).length n with hroom | hfull
      · rw [List.take_of_length_le (Nat.le_of_lt hroom)]
        exact ⟨fun h a ha hinit => h a hinit a ha rfl, fun h a ha b hb heq => h b hb (heq ▸ ha)⟩
      · rw [Nat.sub_eq_zero_of_le hfull, List.take_zero]
        simp
    rw [forall_split_concat_iff, ← ih, ← hothers, List.flatMap_append, List.flatMap_singleton,
      List.take_append, List.nodup_append]
    simp only [hlast, true_and]

end

/-! ### Words of a store -/

/-- The words are of the store, none of them more often than it is there. -/
def FromStore (store : Store) (items : List Item) : Prop := items.Subperm store.items

section

variable {store : Store} {items : List Item}

theorem FromStore.of_sublist (h : items.Sublist store.items) : FromStore store items := h.subperm

theorem FromStore.take (h : FromStore store items) (n : Nat) : FromStore store (items.take n) :=
  (List.take_sublist n items).subperm.trans h

theorem FromStore.filter (h : FromStore store items) (p : Item → Bool) :
    FromStore store (items.filter p) :=
  List.filter_sublist.subperm.trans h

/-- In a store whose ids are distinct, words are told apart by their ids. -/
theorem nodup_ids_iff (hids : (store.items.map (·.id)).Nodup) (h : items ⊆ store.items) :
    (items.map (·.id)).Nodup ↔ items.Nodup := by
  refine ⟨List.Nodup.of_map _, fun hitems => ?_⟩
  exact hitems.map_on fun first hfirst second hsecond hid =>
    List.inj_on_of_nodup_map hids (h hfirst) (h hsecond) hid

/-- Words of a store without doubles are without doubles. -/
theorem FromStore.nodup_ids (h : FromStore store items)
    (hids : (store.items.map (·.id)).Nodup) : (items.map (·.id)).Nodup := by
  obtain ⟨listed, hperm, hsublist⟩ := h
  have hlisted : (listed.map (·.id)).Nodup := hids.sublist (hsublist.map _)
  exact (hperm.map _).nodup_iff.mp hlisted

end

/-! ### Words that come in one answer -/

namespace Planner

section

variable {planner : Planner σ} {store : Store} {draw : Nat → List Item → StateM σ (List Item)}
  (hstore : planner.provider = store.provider draw)
include hstore

theorem sample_yields_fromStore (hdraw : Samples draw) (count : Nat) (filter : Filter) :
    (ask (planner.provider.sample count filter)).Yields (FromStore store) := fun s =>
  ⟨_, _, ask_sample hstore count filter s,
    (hdraw count (store.pool filter) s).1.trans List.filter_sublist.subperm⟩

theorem search_yields_fromStore (search : Search) :
    (ask (planner.provider.search search)).Yields fun page => FromStore store page.items := by
  intro s
  refine ⟨_, s, ask_search hstore search s, .of_sublist ?_⟩
  exact (List.take_sublist ..).trans ((List.drop_sublist ..).trans List.filter_sublist)

theorem byCategory_yields_fromStore (category : String) (filter : Filter) :
    (ask (planner.provider.byCategory category filter)).Yields (FromStore store) := by
  intro s
  refine ⟨_, s, ask_byCategory hstore category filter s, .of_sublist ?_⟩
  have hfound : ((store.pool filter).filter (·.inCategory category)).Sublist store.items :=
    List.filter_sublist.trans List.filter_sublist
  unfold Store.byCategory Store.firstOf
  split
  · exact hfound
  · exact (List.take_sublist ..).trans hfound

/-- Without categories, the words around a theme come in one answer. -/
theorem chooseWords_yields_fromStore (hdraw : Samples draw) {request : Request}
    (hnone : request.criteria.categories = []) (options : Options) :
    (planner.chooseWords request options).Yields (FromStore store) := by
  have hwords : (planner.wordsUpTo request (planner.itemLimit request options)).Yields
      (FromStore store) := by
    rw [wordsUpTo, hnone]
    cases request.criteria.partOfSpeech with
    | none => exact sample_yields_fromStore hstore hdraw _ _
    | some part =>
      exact (search_yields_fromStore hstore _).bind fun page hpage => .pure (hpage.filter _)
  exact hwords.bind fun items hitems => .pure (hitems.take _)

theorem exampleWords_yields_fromStore (hdraw : Samples draw) (request : Request)
    (concept? : Option Grammar.Concept) :
    (planner.exampleWords request concept?).Yields (FromStore store) := by
  unfold exampleWords
  split
  · exact (search_yields_fromStore hstore _).bind fun page hpage => .pure hpage
  · exact sample_yields_fromStore hstore hdraw _ _

/-- The words of a lesson are words of the store, unless several answers are put together. -/
theorem fromStore_of_lesson (hdraw : Samples draw) {request : Request} {options : Options}
    {lesson : Lesson} {s s' : σ}
    (h : (planner.lesson request options).run s = (.ok lesson, s'))
    (hone : request.kind = .vocabulary → request.criteria.categories = []) :
    FromStore store lesson.vocabulary := by
  have hplan := plan_of_lesson h
  cases hkind : request.kind <;> rw [hkind] at hplan
  case vocabulary =>
    obtain ⟨⟨s₁, hwords⟩, -⟩ := parts_of_thematicLesson hplan
    exact (chooseWords_yields_fromStore hstore hdraw (hone hkind) options).of_run hwords
  case grammar =>
    obtain ⟨⟨s₁, hwords⟩, -⟩ := parts_of_grammarLesson hplan
    exact (exampleWords_yields_fromStore hstore hdraw request _).of_run hwords
  all_goals
    obtain ⟨⟨s₁, s₂, hwords⟩, -⟩ := parts_of_contextualLesson hplan
    exact (byCategory_yields_fromStore hstore _ _).of_run hwords

end

end Planner

/-! ### Words of several categories -/

/-- The words that a category gives to a lesson: its first ones, as many as its share of the limit,
    without those of other classes. -/
def shareOf (store : Store) (request : Request) (limit : Nat) (category : String) : List Item :=
  ((gradedIn store request.level category).take
    (limit ⌈/⌉ request.criteria.categories.length)).filter (isWanted request.criteria.partOfSpeech)

section

variable {store : Store} {request : Request} {limit : Nat} {category : String} {item : Item}

theorem categoryShares_eq_flatMap :
    categoryShares store request limit
      = request.criteria.categories.flatMap (shareOf store request limit) := rfl

theorem shareOf_sublist : (shareOf store request limit category).Sublist store.items :=
  List.filter_sublist.trans <| (List.take_sublist ..).trans <|
    List.filter_sublist.trans List.filter_sublist

theorem mem_graded_of_mem_shareOf (h : item ∈ shareOf store request limit category) :
    item ∈ graded store request.level ∧ category ∈ item.categories :=
  (mem_gradedIn_iff ..).mp (List.mem_of_mem_take (List.mem_filter.mp h).1)

/-- Categories that have no word of the level in common give none in common. -/
theorem not_mem_shareOf_of_apart {earlier later : List String} {other : String}
    (hapart : request.criteria.categories.Pairwise fun first second =>
      ∀ item ∈ graded store request.level, first ∈ item.categories → second ∉ item.categories)
    (hsplit : request.criteria.categories = earlier ++ category :: later)
    (hitem : item ∈ shareOf store request limit category) (hother : other ∈ earlier) :
    item ∉ shareOf store request limit other := by
  intro hboth
  obtain ⟨hgraded, hin⟩ := mem_graded_of_mem_shareOf hboth
  obtain ⟨-, hcategory⟩ := mem_graded_of_mem_shareOf hitem
  rw [hsplit, List.pairwise_append] at hapart
  exact hapart.2.2 other hother category List.mem_cons_self item hgraded hin hcategory

/-- In a store without doubles, the words of categories up to a limit have doubles exactly if a
    category gives a word within the limit that an earlier one gives too. -/
theorem nodup_ids_categoryShares_iff (hids : (store.items.map (·.id)).Nodup) :
    (((categoryShares store request limit).take limit).map (·.id)).Nodup ↔
      ∀ earlier category later, request.criteria.categories = earlier ++ category :: later →
        ∀ item ∈ (shareOf store request limit category).take
            (limit - (earlier.flatMap (shareOf store request limit)).length),
          ∀ other ∈ earlier, item ∉ shareOf store request limit other := by
  have hstored : (categoryShares store request limit).take limit ⊆ store.items := by
    intro item hitem
    obtain ⟨category, -, hshare⟩ := List.mem_flatMap.mp (List.mem_of_mem_take hitem)
    exact shareOf_sublist.subset hshare
  have hshares : ∀ category, (shareOf store request limit category).Nodup := fun category =>
    (List.Nodup.of_map _ hids).sublist shareOf_sublist
  rw [nodup_ids_iff hids hstored, categoryShares_eq_flatMap, nodup_take_flatMap_iff hshares]
  simp only [List.mem_flatMap, not_exists, not_and]

end

namespace Planner

/-- **No word is listed twice.** Over a store whose ids are distinct, and with samples that take
    every word once, a lesson lists a word twice only if its words come from categories, and exactly
    if one of these gives a word within the limit that is in the share of an earlier one too. So no
    word is listed twice where no two of the requested categories have a word of the level in
    common. -/
theorem no_word_is_listed_twice_iff (planner : Planner σ) {store : Store}
    {draw : Nat → List Item → StateM σ (List Item)}
    (hstore : planner.provider = store.provider draw) (hdraw : Samples draw)
    (hids : (store.items.map (·.id)).Nodup) (request : Request) (options : Options) {s s' : σ}
    {lesson : Lesson} (h : (planner.lesson request options).run s = (.ok lesson, s')) :
    let limit := firstPositive [request.criteria.limit, options.maxItems]
      planner.settings.defaultItemLimit
    let categories := request.criteria.categories
    let share := shareOf store request limit
    ((lesson.vocabulary.map (·.id)).Nodup ↔
      (request.kind = .vocabulary → ∀ earlier category later,
        categories = earlier ++ category :: later →
        ∀ item ∈ (share category).take (limit - (earlier.flatMap share).length),
          ∀ other ∈ earlier, item ∉ share other)) ∧
    ((categories.Pairwise fun first second =>
        ∀ item ∈ graded store request.level, first ∈ item.categories → second ∉ item.categories) →
      (lesson.vocabulary.map (·.id)).Nodup) := by
  intro limit categories share
  have hiff : (lesson.vocabulary.map (·.id)).Nodup ↔
      (request.kind = .vocabulary → ∀ earlier category later,
        categories = earlier ++ category :: later →
        ∀ item ∈ (share category).take (limit - (earlier.flatMap share).length),
          ∀ other ∈ earlier, item ∉ share other) := by
    by_cases hseveral : request.kind = .vocabulary ∧ categories ≠ []
    · obtain ⟨hkind, hsome⟩ := hseveral
      have hplan := plan_of_lesson h
      rw [hkind] at hplan
      obtain ⟨⟨s₁, hchosen⟩, -⟩ := parts_of_thematicLesson hplan
      have hwords := (chooseWords_yields_of_categories hstore hsome options).of_run hchosen
      rw [itemLimit_eq] at hwords
      rw [hwords, nodup_ids_categoryShares_iff hids]
      exact ⟨fun hall _ => hall, fun hall => hall hkind⟩
    -- the words come in one answer, and there is no split of the categories
    · have hone : request.kind = .vocabulary → categories = [] := fun hkind =>
        not_not.mp fun hsome => hseveral ⟨hkind, hsome⟩
      have hwords := fromStore_of_lesson hstore hdraw h hone
      refine ⟨fun _ hkind earlier category later hsplit => ?_, fun _ => hwords.nodup_ids hids⟩
      exact absurd (hone hkind) (by simp [hsplit])
  refine ⟨hiff, fun hapart => hiff.mpr fun _ earlier category later hsplit item hitem => ?_⟩
  exact fun other => not_mem_shareOf_of_apart hapart hsplit (List.mem_of_mem_take hitem)

/-- Water is food and a drink. Where food is not asked for, it is listed once. -/
theorem no_word_is_listed_twice_of_drinks_and_travel :
    let store : Store := ⟨[⟨"wasser", "Wasser", "вода", "noun", 1, ["food", "drinks"], none, []⟩,
      ⟨"saft", "Saft", "сок", "noun", 1, ["drinks"], none, []⟩,
      ⟨"zug", "Zug", "влак", "noun", 1, ["travel"], none, []⟩]⟩
    let planner := bare store
    let request : Request := {
      level := .a1, criteria := { categories := ["drinks", "travel"], limit := some 4 } }
    planner.provider = store.provider drawFirst ∧
      Samples (drawFirst : Nat → List Item → StateM Unit (List Item)) ∧
      (store.items.map (·.id)).Nodup ∧
      ∃ lesson, (planner.lesson request {}).run () = (.ok lesson, ()) ∧
        lesson.vocabulary = store.items ∧ (lesson.vocabulary.map (·.id)).Nodup := by
  intro store planner request
  have hstore : planner.provider = store.provider drawFirst := rfl
  have hids : (store.items.map (·.id)).Nodup := by decide +kernel
  have hapart : request.criteria.categories.Pairwise fun first second =>
      ∀ item ∈ graded store .a1, first ∈ item.categories → second ∉ item.categories := by
    decide +kernel
  have hall : ((planner.lesson request {}).run ()).1.toOption.map (·.vocabulary)
      = some store.items := by
    decide +kernel
  obtain ⟨lesson, hrun, hwords⟩ := exists_lesson_of_vocabulary hall
  exact ⟨hstore, drawFirst_samples, hids, lesson, hrun, hwords,
    (no_word_is_listed_twice_iff planner hstore drawFirst_samples hids request {} hrun).2 hapart⟩

/-- A lesson of food and drinks lists water twice. -/
theorem water_is_listed_twice :
    let store : Store :=
      ⟨[⟨"wasser", "Wasser", "вода", "noun", 1, ["food", "drinks"], none, []⟩]⟩
    let planner := bare store
    let request : Request := {
      level := .a1, criteria := { categories := ["food", "drinks"], limit := some 2 } }
    (store.items.map (·.id)).Nodup ∧
      ∃ lesson, (planner.lesson request {}).run () = (.ok lesson, ()) ∧
        ¬ (lesson.vocabulary.map (·.id)).Nodup := by
  intro store planner request
  have hids : (store.items.map (·.id)).Nodup := by decide +kernel
  have htwice : ((planner.lesson request {}).run ()).1.toOption.map (·.vocabulary)
      = some (store.items ++ store.items) := by
    decide +kernel
  obtain ⟨lesson, hrun, hwords⟩ := exists_lesson_of_vocabulary htwice
  refine ⟨hids, lesson, hrun, ?_⟩
  rw [hwords]
  decide +kernel

end Planner

end BilingualLessons.Lesson
