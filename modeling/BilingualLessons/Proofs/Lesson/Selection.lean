import BilingualLessons.Proofs.Lesson.BestEffort
import BilingualLessons.Proofs.Lesson.Words

namespace BilingualLessons.Lesson

/-!
# The words that a request selects

A request can ask for words of a class.  The store is asked for no more words than the lesson may
have, and words of other classes are left out of its answer; so what the answer has no room for is
lost, be it of the class or not.

* `length_filter_take_eq_min_iff` — when a filter behind a limit finds as much as a limit behind
  the filter.
* `graded`, `gradedIn` — the items of a level, and those of them in a category.
* `Planner.Teaches` — what comes of a request for words, whatever becomes of its sections.
* `Planner.chooseWords_yields_of_categories`, `Planner.chooseWords_yields_of_part` — the words of a
  request, exactly.
* `Planner.category_lesson_has_all_matches_iff`, `Planner.lesson_has_all_matches_iff` — when the
  words are all that match, up to the limit: in one category, and without categories.
-/

open Vocabulary

variable {σ : Type}

/-! ### Filters behind a limit -/

section

variable {α : Type} (p : α → Bool) (l : List α) (n : Nat)

/-- A filter leaves `n` of the first `n` elements only if there are so many and all of them pass. -/
theorem le_length_filter_take_iff :
    n ≤ ((l.take n).filter p).length ↔ n ≤ l.length ∧ ∀ a ∈ l.take n, p a = true := by
  have htake : (l.take n).length = min n l.length := List.length_take
  have hfilter : ((l.take n).filter p).length ≤ (l.take n).length := List.length_filter_le p _
  have hall : ((l.take n).filter p).length = (l.take n).length ↔ ∀ a ∈ l.take n, p a = true :=
    List.length_filter_eq_length_iff
  rw [← hall]
  omega

/-- The elements that pass are those among the first `n` and those behind them. -/
theorem length_filter_take_add_drop :
    ((l.take n).filter p).length + ((l.drop n).filter p).length = (l.filter p).length := by
  rw [← List.length_append, ← List.filter_append, List.take_append_drop]

/-- A filter behind a limit finds as many elements as a limit would leave of those that pass and of
    `others`, exactly if the first elements all pass, or there are no others and nothing behind the
    first elements passes. -/
theorem length_filter_take_eq_min_iff (others : Nat) :
    ((l.take n).filter p).length = min n ((l.filter p).length + others) ↔
      (n ≤ l.length ∧ ∀ a ∈ l.take n, p a = true) ∨
        others = 0 ∧ ∀ a ∈ l.drop n, p a = false := by
  have htake : (l.take n).length ≤ n := List.length_take_le n l
  have hfilter : ((l.take n).filter p).length ≤ (l.take n).length := List.length_filter_le p _
  have hsplit := length_filter_take_add_drop p l n
  -- the two cases, told by numbers
  have hbehind : ((l.drop n).filter p).length = 0 ↔ ∀ a ∈ l.drop n, p a = false := by
    rw [List.length_eq_zero_iff, List.filter_eq_nil_iff]
    simp only [Bool.not_eq_true]
  rw [← le_length_filter_take_iff, ← hbehind]
  omega

/-- What a filter behind a limit finds comes first among all that passes. -/
theorem filter_take_isPrefix : (l.take n).filter p <+: l.filter p := (List.take_prefix n l).filter p

/-- What comes first in a list is its beginning up to a limit exactly if it is as long. -/
theorem eq_take_iff_of_isPrefix {first l : List α} (h : first <+: l) (n : Nat) :
    first = l.take n ↔ first.length = min n l.length := by
  constructor
  · intro heq
    rw [heq, List.length_take]
  · intro hlength
    have hfirst : first = l.take first.length := List.prefix_iff_eq_take.mp h
    rw [hfirst, List.take_eq_take_iff]
    omega

end

/-! ### The items of a level -/

/-- The items of a level, in the order of the store. -/
def graded (store : Store) (level : Level) : List Item :=
  store.items.filter (·.difficulty = level.number)

/-- The items of a level in a category, in the order of the store. -/
def gradedIn (store : Store) (level : Level) (category : String) : List Item :=
  (graded store level).filter (category ∈ ·.categories)

section

variable (store : Store) (level : Level) (category : String) {item : Item}

theorem mem_graded_iff :
    item ∈ graded store level ↔ item ∈ store.items ∧ item.difficulty = level.number := by
  simp [graded]

theorem mem_gradedIn_iff :
    item ∈ gradedIn store level category ↔
      item ∈ graded store level ∧ category ∈ item.categories := by
  simp [gradedIn]

/-- What the store has of a category is cut off behind the limit. -/
theorem byCategory_gradeFilter (limit : Nat) :
    store.byCategory category (gradeFilter level (some limit))
      = (gradedIn store level category).take limit := by
  have hpool : store.pool (gradeFilter level (some limit)) = graded store level := by
    refine List.filter_congr fun item _ => Bool.eq_iff_iff.mpr ?_
    rw [gradeFilter_admits_iff, decide_eq_true_iff]
  have hcategory : (graded store level).filter (·.inCategory category)
      = gradedIn store level category := by
    refine List.filter_congr fun item _ => Bool.eq_iff_iff.mpr ?_
    rw [inCategory_iff, decide_eq_true_iff]
  rw [Store.byCategory, hpool, hcategory]
  rfl

/-- What the store has under the name of a class is cut off behind the limit. -/
theorem search_gradeSearch (part : PartOfSpeech) (limit : Nat) :
    (store.search (gradeSearch level part limit)).items
      = ((graded store level).filter (·.partOfSpeech = part.name)).take limit := by
  have hhits : store.hits (gradeSearch level part limit)
      = (graded store level).filter (·.partOfSpeech = part.name) := by
    rw [graded, List.filter_filter]
    refine List.filter_congr fun item _ => Bool.eq_iff_iff.mpr ?_
    rw [gradeSearch_admits_iff, Bool.and_eq_true, decide_eq_true_iff, decide_eq_true_iff]
  rw [← hhits]
  rfl

end

/-- The words that the categories of a request give, one category after the other: of each its
    first ones, as many as its share of the limit, without those of other classes. -/
def categoryShares (store : Store) (request : Request) (limit : Nat) : List Item :=
  let size := limit ⌈/⌉ request.criteria.categories.length
  request.criteria.categories.flatMap fun category =>
    ((gradedIn store request.level category).take size).filter
      (isWanted request.criteria.partOfSpeech)

/-! ### What comes of a request for words -/

namespace Planner

/-- From every state of the vocabulary, a request for words finds words of a kind, and there is a
    lesson with these words unless none of its sections comes about. -/
def Teaches (planner : Planner σ) (request : Request) (options : Options)
    (P : List Item → Prop) : Prop :=
  ∀ s, ∃ items s₁ s₂,
    (planner.chooseWords request options).runFrom s = (.ok items, s₁) ∧ P items ∧
    ((∃ lesson, (planner.lesson request options).run s = (.ok lesson, s₂) ∧
        lesson.vocabulary = items) ∨
      ∃ skipped, (planner.lesson request options).run s
        = (.error (.noSections request.kind skipped), s₂))

/-- Words that are always found are those of every lesson. -/
theorem teaches_of_yields {planner : Planner σ} {request : Request} {options : Options}
    {P : List Item → Prop} (hkind : request.kind = .vocabulary)
    (h : (planner.chooseWords request options).Yields P) : planner.Teaches request options P := by
  intro s
  obtain ⟨items, s₁, hrun, hitems⟩ := h s
  have hwords : (planner.words request options).runFrom s = (.ok items, s₁) := by
    rw [words, hkind]
    exact hrun
  rcases htrials : (tryAll (planner.attempts request items)).run s₁ with ⟨trials, s₂⟩
  refine ⟨items, s₁, s₂, hrun, hitems, ?_⟩
  by_cases hnone : rendered trials = []
  · exact .inr ⟨_, lesson_of_none (.inl hkind) hwords htrials hnone⟩
  · refine .inl ⟨_, lesson_of_rendered (.inl hkind) hwords htrials hnone, ?_⟩
    exact (assembled_parts planner request items _).2.2

section

variable {planner : Planner σ} {store : Store} {draw : Nat → List Item → StateM σ (List Item)}
  (hstore : planner.provider = store.provider draw) {request : Request}
include hstore

/-- **Words of categories.** The limit is applied to what all categories give together. -/
theorem chooseWords_yields_of_categories (hsome : request.criteria.categories ≠ [])
    (options : Options) :
    (planner.chooseWords request options).Yields (· =
      (categoryShares store request (planner.itemLimit request options)).take
        (planner.itemLimit request options)) := by
  intro s
  have hshare : share (planner.itemLimit request options) request.criteria.categories.length
      = planner.itemLimit request options ⌈/⌉ request.criteria.categories.length :=
    (Nat.ceilDiv_eq_add_pred_div ..).symm
  have hfound := categoryWords_runFrom hstore
    (gradeFilter request.level (some (share (planner.itemLimit request options)
      request.criteria.categories.length))) (isWanted request.criteria.partOfSpeech)
    request.criteria.categories s
  simp only [byCategory_gradeFilter] at hfound
  have hwords : (planner.wordsUpTo request (planner.itemLimit request options)).runFrom s
      = (.ok (categoryShares store request (planner.itemLimit request options)), s) := by
    unfold wordsUpTo
    split
    · next hnone _ => exact absurd hnone hsome
    · next hnone _ => exact absurd hnone hsome
    · rw [hfound, categoryShares, hshare]
  exact ⟨_, s, runFrom_bind_of_ok hwords, rfl⟩

/-- **Words of a class.** Without categories, the first words under the name of the class are
    taken, and those that do not belong there are left out. -/
theorem chooseWords_yields_of_part (hnone : request.criteria.categories = [])
    {part : PartOfSpeech} (hpart : request.criteria.partOfSpeech = some part)
    (options : Options) :
    (planner.chooseWords request options).Yields (· =
      (((graded store request.level).filter (·.partOfSpeech = part.name)).take
        (planner.itemLimit request options)).filter (·.part = part.name)) := by
  intro s
  have hpage := search_gradeSearch store request.level part
    (planner.itemLimit request options)
  have hwanted : isWanted request.criteria.partOfSpeech
      = fun item : Item => item.part = part.name := by
    rw [hpart]
    rfl
  have hwords : (planner.wordsUpTo request (planner.itemLimit request options)).runFrom s
      = (.ok ((((graded store request.level).filter (·.partOfSpeech = part.name)).take
        (planner.itemLimit request options)).filter (·.part = part.name)), s) := by
    rw [← hpage, ← hwanted, wordsUpTo, hnone, hpart]
    exact runFrom_bind_of_ok (ask_search hstore _ s)
  refine ⟨_, s, runFrom_bind_of_ok hwords, ?_⟩
  -- a page is within the limit, so nothing is cut off again
  refine List.take_of_length_le ((List.length_filter_le _ _).trans ?_)
  exact List.length_take_le _ _

end

/-! ### Selections that are complete -/

/-- A planner over a store, with the built-in template and the built-in concept only. -/
def bare (store : Store) : Planner Unit where
  shelf := (templateRepository Template.defaultNesting (.records "templates" [])).contents
  catalogue := (Grammar.conceptRepository (.records "grammar" [])).contents
  provider := store.provider drawFirst
  pick := fun _ => return 0

/-- A lesson is known by its words. -/
theorem exists_lesson_of_vocabulary {planner : Planner Unit} {request : Request}
    {options : Options} {items : List Item}
    (h : ((planner.lesson request options).run ()).1.toOption.map (·.vocabulary) = some items) :
    ∃ lesson, (planner.lesson request options).run () = (.ok lesson, ()) ∧
      lesson.vocabulary = items :=
  exists_lesson_of_reading (·.vocabulary) h

/-- **All matches of a category.** A lesson of one category and one class has words of the category
    that are of the class, the first ones of the store. They are all of them, up to the limit,
    exactly if the first words of the category, as many as the limit, are all of the class, or none
    behind these is. -/
theorem category_lesson_has_all_matches_iff (planner : Planner σ) {store : Store}
    {draw : Nat → List Item → StateM σ (List Item)}
    (hstore : planner.provider = store.provider draw) (request : Request)
    (hkind : request.kind = .vocabulary) {category : String}
    (hcategory : request.criteria.categories = [category]) {part : PartOfSpeech}
    (hpart : request.criteria.partOfSpeech = some part) (options : Options) :
    let limit := firstPositive [request.criteria.limit, options.maxItems]
      planner.settings.defaultItemLimit
    let inCategory := gradedIn store request.level category
    let sought := inCategory.filter (·.part = part.name)
    planner.Teaches request options fun words =>
      words <+: sought ∧ words = (inCategory.take limit).filter (·.part = part.name) ∧
      (words = sought.take limit ↔
        (limit ≤ inCategory.length ∧ ∀ item ∈ inCategory.take limit, item.part = part.name) ∨
          ∀ item ∈ inCategory.drop limit, item.part ≠ part.name) := by
  intro limit inCategory sought
  have hlimit : planner.itemLimit request options = limit := itemLimit_eq planner request options
  -- one category has all of the limit for its share
  have hshares : categoryShares store request limit
      = (inCategory.take limit).filter (·.part = part.name) := by
    have hone : limit ⌈/⌉ [category].length = limit := by
      rw [Nat.ceilDiv_eq_add_pred_div]
      simp
    rw [categoryShares, hcategory, hpart, hone, List.flatMap_singleton]
    rfl
  have hbounded : (categoryShares store request limit).length ≤ limit := by
    rw [hshares]
    exact (List.length_filter_le _ _).trans (List.length_take_le _ _)
  have hsome : request.criteria.categories ≠ [] := by
    rw [hcategory]
    exact List.cons_ne_nil _ _
  have hwords := chooseWords_yields_of_categories hstore hsome options
  rw [hlimit, List.take_of_length_le hbounded, hshares] at hwords
  refine teaches_of_yields hkind (hwords.imp fun words hall => ?_)
  have hfirst : words <+: sought := hall ▸ filter_take_isPrefix _ inCategory limit
  refine ⟨hfirst, hall, ?_⟩
  have hiff := length_filter_take_eq_min_iff (·.part = part.name) inCategory limit 0
  rw [eq_take_iff_of_isPrefix hfirst, hall]
  simpa using hiff

/-- Of two nouns in front of a verb both are found. -/
theorem category_lesson_has_all_matches_of_two_nouns :
    let store : Store := ⟨[⟨"brot", "Brot", "хляб", "noun", 1, ["food"], none, []⟩,
      ⟨"apfel", "Apfel", "ябълка", "noun", 1, ["food"], none, []⟩,
      ⟨"essen", "essen", "ям", "verb", 1, ["food"], none, []⟩]⟩
    let planner := bare store
    let request : Request := {
      level := .a1
      criteria := { categories := ["food"], partOfSpeech := some .noun, limit := some 2 } }
    planner.provider = store.provider drawFirst ∧ request.kind = .vocabulary ∧
      request.criteria.categories = ["food"] ∧ request.criteria.partOfSpeech = some .noun ∧
      planner.Teaches request {} fun words => words = store.items.take 2 ∧
        words = ((gradedIn store .a1 "food").filter (·.part = "noun")).take 2 := by
  intro store planner request
  have hstore : planner.provider = store.provider drawFirst := rfl
  have hnouns : ∀ item ∈ (gradedIn store .a1 "food").take 2, item.part = "noun" := by
    decide +kernel
  have hfound : ((gradedIn store .a1 "food").take 2).filter (·.part = "noun")
      = store.items.take 2 := by
    decide +kernel
  refine ⟨hstore, rfl, rfl, rfl, fun s => ?_⟩
  obtain ⟨words, s₁, s₂, hrun, ⟨-, hwords, hall⟩, hlesson⟩ :=
    category_lesson_has_all_matches_iff planner hstore request rfl rfl rfl {} s
  exact ⟨words, s₁, s₂, hrun, ⟨hwords.trans hfound, hall.mpr (.inl ⟨by decide +kernel, hnouns⟩)⟩,
    hlesson⟩

/-- A noun behind a verb is lost, though there is room for it. -/
theorem noun_behind_a_verb_is_lost :
    let store : Store := ⟨[⟨"essen", "essen", "ям", "verb", 1, ["food"], none, []⟩,
      ⟨"brot", "Brot", "хляб", "noun", 1, ["food"], none, []⟩]⟩
    let planner := bare store
    let request : Request := {
      level := .a1
      criteria := { categories := ["food"], partOfSpeech := some .noun, limit := some 1 } }
    (store.items.map (·.id)).Nodup ∧
      ((gradedIn store .a1 "food").filter (·.part = "noun")).map (·.id) = ["brot"] ∧
      ∃ lesson, (planner.lesson request {}).run () = (.ok lesson, ()) ∧
        lesson.vocabulary ≠ ((gradedIn store .a1 "food").filter (·.part = "noun")).take 1 := by
  intro store planner request
  have hids : (store.items.map (·.id)).Nodup := by decide +kernel
  have hsought : ((gradedIn store .a1 "food").filter (·.part = "noun")).map (·.id) = ["brot"] := by
    decide +kernel
  have hempty : ((planner.lesson request {}).run ()).1.toOption.map (·.vocabulary) = some [] := by
    decide +kernel
  refine ⟨hids, hsought, ?_⟩
  obtain ⟨lesson, hrun, hnone⟩ := exists_lesson_of_vocabulary hempty
  refine ⟨lesson, hrun, ?_⟩
  rw [hnone]
  decide +kernel

/-- **All matches of a level.** A lesson of one class without categories has words that are found
    under the name of the class and that belong there. They are all words of the class, up to the
    limit, exactly if the first words under its name, as many as the limit, all belong there, or
    every word of the class is found under its name and none behind these first words. -/
theorem lesson_has_all_matches_iff (planner : Planner σ) {store : Store}
    {draw : Nat → List Item → StateM σ (List Item)}
    (hstore : planner.provider = store.provider draw) (request : Request)
    (hkind : request.kind = .vocabulary) (hnone : request.criteria.categories = [])
    {part : PartOfSpeech} (hpart : request.criteria.partOfSpeech = some part)
    (options : Options) :
    let limit := firstPositive [request.criteria.limit, options.maxItems]
      planner.settings.defaultItemLimit
    let recorded := (graded store request.level).filter (·.partOfSpeech = part.name)
    let sought := (graded store request.level).filter (·.part = part.name)
    planner.Teaches request options fun words =>
      words.Sublist sought ∧ words = (recorded.take limit).filter (·.part = part.name) ∧
      (words.length = min limit sought.length ↔
        (limit ≤ recorded.length ∧ ∀ item ∈ recorded.take limit, item.part = part.name) ∨
          (∀ item ∈ sought, item.partOfSpeech = part.name) ∧
            ∀ item ∈ recorded.drop limit, item.part ≠ part.name) := by
  intro limit recorded sought
  have hlimit : planner.itemLimit request options = limit := itemLimit_eq planner request options
  have hwords := chooseWords_yields_of_part hstore hnone hpart options
  rw [hlimit] at hwords
  refine teaches_of_yields hkind (hwords.imp fun words hall => ?_)
  -- what is sought under the name of the class is what is recorded there and belongs there
  have hboth : recorded.filter (·.part = part.name)
      = sought.filter (·.partOfSpeech = part.name) := List.filter_comm ..
  have hfirst : words.Sublist (recorded.filter (·.part = part.name)) :=
    hall ▸ (filter_take_isPrefix _ recorded limit).sublist
  refine ⟨hfirst.trans (hboth ▸ List.filter_sublist), hall, ?_⟩
  -- the rest of what is sought is recorded as something else, where no search finds it
  have hsplit : sought.length = (recorded.filter (·.part = part.name)).length
      + (sought.filter fun item => !decide (item.partOfSpeech = part.name)).length := by
    rw [hboth]
    exact List.length_eq_length_filter_add _
  have helsewhere : (sought.filter fun item => !decide (item.partOfSpeech = part.name)).length = 0 ↔
      ∀ item ∈ sought, item.partOfSpeech = part.name := by
    simp
  have hiff := length_filter_take_eq_min_iff (·.part = part.name) recorded limit
    (sought.filter fun item => !decide (item.partOfSpeech = part.name)).length
  rw [hall, hsplit, ← helsewhere]
  simpa using hiff

/-- A number, behind a greeting that the data call one: the number is found. -/
theorem lesson_has_all_matches_of_one_number :
    let store : Store := ⟨[⟨"bitte", "bitte", "моля", "number", 1, [], none, []⟩,
      ⟨"hundert", "hundert", "сто", "number", 1, [], none, []⟩]⟩
    let planner := bare store
    let request : Request := {
      level := .a1, criteria := { partOfSpeech := some .number, limit := some 3 } }
    planner.provider = store.provider drawFirst ∧ request.kind = .vocabulary ∧
      request.criteria.categories = [] ∧ request.criteria.partOfSpeech = some .number ∧
      planner.Teaches request {} fun words => words.map (·.id) = ["hundert"] ∧
        words.length = min 3 ((graded store .a1).filter (·.part = "number")).length := by
  intro store planner request
  have hstore : planner.provider = store.provider drawFirst := rfl
  have hrecorded : ∀ item ∈ (graded store .a1).filter (·.part = "number"),
      item.partOfSpeech = "number" := by
    decide +kernel
  have hbehind : ∀ item ∈ ((graded store .a1).filter (·.partOfSpeech = "number")).drop 3,
      item.part ≠ "number" := by
    decide +kernel
  have hfound : ((((graded store .a1).filter (·.partOfSpeech = "number")).take 3).filter
      (·.part = "number")).map (·.id) = ["hundert"] := by
    decide +kernel
  refine ⟨hstore, rfl, rfl, rfl, fun s => ?_⟩
  obtain ⟨words, s₁, s₂, hrun, ⟨-, hwords, hall⟩, hlesson⟩ :=
    lesson_has_all_matches_iff planner hstore request rfl rfl rfl {} s
  refine ⟨words, s₁, s₂, hrun, ⟨?_, hall.mpr (.inr ⟨hrecorded, hbehind⟩)⟩, hlesson⟩
  rw [hwords]
  exact hfound

/-- A number that the data call an adjective is not found. -/
theorem misfiled_number_is_lost :
    let store : Store := ⟨[⟨"zwei", "zwei", "две", "adjective", 1, ["numbers"], none, []⟩]⟩
    let planner := bare store
    let request : Request := {
      level := .a1, criteria := { partOfSpeech := some .number, limit := some 1 } }
    (store.items.map (·.id)).Nodup ∧
      ((graded store .a1).filter (·.part = "number")).map (·.id) = ["zwei"] ∧
      ∃ lesson, (planner.lesson request {}).run () = (.ok lesson, ()) ∧
        lesson.vocabulary.length
          ≠ min 1 ((graded store .a1).filter (·.part = "number")).length := by
  intro store planner request
  have hids : (store.items.map (·.id)).Nodup := by decide +kernel
  have hsought : ((graded store .a1).filter (·.part = "number")).map (·.id) = ["zwei"] := by
    decide +kernel
  have hempty : ((planner.lesson request {}).run ()).1.toOption.map (·.vocabulary) = some [] := by
    decide +kernel
  refine ⟨hids, hsought, ?_⟩
  obtain ⟨lesson, hrun, hnone⟩ := exists_lesson_of_vocabulary hempty
  refine ⟨lesson, hrun, ?_⟩
  rw [hnone]
  decide +kernel

end Planner

end BilingualLessons.Lesson
