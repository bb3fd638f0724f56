import BilingualLessons.Vocabulary.Store

namespace BilingualLessons.Vocabulary

/-!
# Providers of vocabulary

What a lesson asks of a vocabulary, with a state of the provider's own.

* `Provider` — the three questions, each of which can fail.
* `Store.provider` — a store as a provider, given a way to sample.
* `Call`, `Provider.recorded` — a provider that keeps a record of the questions.
-/

/-- Answers questions, with a state of type `σ`; an answer can be a message of failure. -/
structure Provider (σ : Type) where
  search : Search → StateM σ (Except String Page)
  byCategory : String → Filter → StateM σ (Except String (List Item))
  /-- Some items that pass the filter, at most as many as asked for. -/
  sample : Nat → Filter → StateM σ (Except String (List Item))

/-- A store as a provider. `draw` takes a sample of the given size from a pool. -/
def Store.provider (store : Store) (draw : Nat → List Item → StateM σ (List Item)) :
    Provider σ where
  search search := return .ok (store.search search)
  byCategory category filter := return .ok (store.byCategory category filter)
  sample count filter := do return .ok (← draw count (store.pool filter))

/-- The sample that takes the first items of the pool. -/
def drawFirst (count : Nat) (pool : List Item) : StateM σ (List Item) :=
  return pool.take count

/-! ### Keeping a record -/

/-- A question to a provider. -/
inductive Call where
  | search (search : Search)
  | category (name : String) (filter : Filter)
  | sample (count : Nat) (filter : Filter)
deriving DecidableEq, Repr

/-- Messages with which questions of a kind fail. -/
structure Failures where
  search : Option String := none
  category : Option String := none
  sample : Option String := none
deriving DecidableEq, Repr

/-- Puts a question on the record and then asks it, unless questions of its kind fail. -/
def askOnRecord (call : Call) (failure : Option String) (ask : StateM σ (Except String α)) :
    StateM (List Call × σ) (Except String α) := fun (calls, state) =>
  let calls := calls ++ [call]
  match failure with
  | some message => (.error message, (calls, state))
  | none =>
    let (answer, state) := ask state
    (answer, (calls, state))

/-- The provider that keeps a record of the questions, in order, and fails as told. -/
def Provider.recorded (provider : Provider σ) (failures : Failures) :
    Provider (List Call × σ) where
  search search := askOnRecord (.search search) failures.search (provider.search search)
  byCategory category filter :=
    askOnRecord (.category category filter) failures.category (provider.byCategory category filter)
  sample count filter :=
    askOnRecord (.sample count filter) failures.sample (provider.sample count filter)

end BilingualLessons.Vocabulary
