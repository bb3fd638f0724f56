import BilingualLessons.Text.LetterCase
import BilingualLessons.Vocabulary.Query

namespace BilingualLessons.Vocabulary

/-!
# A vocabulary in memory

* `Store` — items in the order in which they were loaded.
* `Store.decode` — the store of a record.
* `Store.search`, `Store.byCategory`, `Store.pool` — the three ways to ask for items.
-/

/-- The size of a page unless the search names one. -/
def defaultPageSize : Nat := 20

/-- Items in the order in which they were loaded. -/
structure Store where
  items : List Item
deriving DecidableEq, Repr

/-- Whether a wish, if there is one, is met. -/
def meets (wish : Option α) (p : α → Bool) : Bool :=
  match wish with
  | none => true
  | some a => p a

/-- Whether the item holds the text in either language, whatever the case. -/
def Item.mentions (item : Item) (query : String) : Bool :=
  Text.occursIn (Text.lowerText query) (Text.lowerText item.german) ||
    Text.occursIn (Text.lowerText query) (Text.lowerText item.bulgarian)

/-- Whether an item matches a search. -/
def Search.admits (search : Search) (item : Item) : Bool :=
  meets search.query item.mentions &&
  meets search.partOfSpeech (item.partOfSpeech == ·) &&
  meets search.difficulty (item.difficulty == ·) &&
  (search.categories.isEmpty || item.categories.any search.categories.contains)

/-- Whether an item passes a filter. -/
def Filter.admits (filter : Filter) (item : Item) : Bool :=
  meets filter.difficulty (item.difficulty == ·) && meets filter.category item.inCategory

namespace Store

/-- The store of an array of items, or of an object with the array under `items`. -/
def decode (v : Json) : Except Record.Misfit Store :=
  let items := match v with
    | .object fields => (Fields.get? "items" fields).getD .null
    | v => v
  (Record.list Item.decode items).map Store.mk

/-- The number of items. -/
def size (store : Store) : Nat := store.items.length

/-- Whether there are no items. -/
def isEmpty (store : Store) : Bool := store.items.isEmpty

/-- Every match of a search, whatever its page. -/
def hits (store : Store) (search : Search) : List Item :=
  store.items.filter search.admits

/-- The page of a search that starts at its offset. -/
def search (store : Store) (search : Search) : Page :=
  let hits := store.hits search
  let limit := search.limit.getD defaultPageSize
  { items := (hits.drop search.offset).take limit
    total := hits.length
    hasMore := search.offset + limit < hits.length }

/-- Every item that passes a filter. -/
def pool (store : Store) (filter : Filter) : List Item :=
  store.items.filter filter.admits

/-- The first items, or all of them without a limit. -/
def firstOf (limit : Option Nat) (items : List Item) : List Item :=
  match limit with
  | none => items
  | some n => items.take n

/-- The items of a category that pass a filter, up to its limit. -/
def byCategory (store : Store) (category : String) (filter : Filter) : List Item :=
  firstOf filter.limit ((store.pool filter).filter (·.inCategory category))

end Store

end BilingualLessons.Vocabulary
