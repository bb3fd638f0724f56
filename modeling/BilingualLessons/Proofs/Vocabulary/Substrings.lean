import BilingualLessons.Proofs.Text.Surroundings
import BilingualLessons.Proofs.Vocabulary.Paging

namespace BilingualLessons.Vocabulary

/-!
# Searching for parts of words

A search puts its query and the words of an item into lower case, each by itself, and then looks
for the one in the others.  A part of a word is found in this way if its lower case does not hang
on the rest of the word.

* `Store.mem_items_search_iff` — what a search for a text finds, if there is room for all items.
* `Item.HasPart` — a text stands in one of the words of an item as it is written.
* `Item.mentions_of_hasPart_iff` — a text is found in every item that has it as a part exactly if it
  is steady; `Item.mentions_of_hasPart` — as it is without a capital sigma.
* `parts_of_words_are_found_iff_steady` — the same for searches of whole stores.
-/

/-- A text stands in one of the words of the item, as it is written. -/
def Item.HasPart (item : Item) (part : String) : Prop :=
  part.toList <:+: item.german.toList ∨ part.toList <:+: item.bulgarian.toList

instance (item : Item) (part : String) : Decidable (item.HasPart part) :=
  inferInstanceAs (Decidable (_ ∨ _))

/-- An item whose words are both the same text. -/
def Item.ofWord (word : List Char) : Item where
  id := "word"
  german := String.ofList word
  bulgarian := String.ofList word
  partOfSpeech := "noun"

/-- **Parts of the words of an item.** A text is found in all items that have it as a part exactly
    if it is steady. -/
theorem Item.mentions_of_hasPart_iff {query : String} :
    (∀ item : Item, item.HasPart query → item.mentions query = true) ↔
      Text.Steady query.toList := by
  rw [← Text.lower_infix_iff_steady]
  constructor
  · intro hall whole hpart
    -- any text around the part is a word of some item
    have hword : (Item.ofWord whole).HasPart query := .inl (by simpa [Item.ofWord] using hpart)
    obtain ⟨word, hmem, hinfix⟩ := Item.mentions_iff.mp (hall (Item.ofWord whole) hword)
    obtain rfl : word = String.ofList whole := by simpa [Item.ofWord] using hmem
    simpa [Text.toList_lowerText] using hinfix
  · intro hall item hpart
    simp only [Item.mentions_iff, Text.toList_lowerText]
    rcases hpart with hgerman | hbulgarian
    · exact ⟨item.german, by simp, hall _ hgerman⟩
    · exact ⟨item.bulgarian, by simp, hall _ hbulgarian⟩

/-- A text without a capital sigma is found in every item that has it as a part. -/
theorem Item.mentions_of_hasPart {item : Item} {query : String} (hsigma : 'Σ' ∉ query.toList)
    (hpart : item.HasPart query) : item.mentions query = true :=
  Item.mentions_of_hasPart_iff.mpr (Text.steady_of_notMem hsigma) item hpart

/-- A search for a text, with room for all items on its page, finds those that mention it. -/
theorem Store.mem_items_search_iff {store : Store} {query : String} {limit : Option Nat}
    (hroom : store.size ≤ limit.getD defaultPageSize) {item : Item} :
    item ∈ (store.search { query := some query, limit }).items ↔
      item ∈ store.items ∧ item.mentions query = true := by
  have hhits : (store.hits { query := some query, limit }).length ≤ limit.getD defaultPageSize :=
    le_trans (List.length_filter_le _ _) hroom
  have hpage : (store.search { query := some query, limit }).items
      = store.hits { query := some query, limit } := by
    rw [Store.search, List.drop_zero]
    exact List.take_of_length_le hhits
  rw [hpage, Store.hits, List.mem_filter]
  simp [Search.admits, meets]

/-- **Finding parts of words.** Exactly the steady texts are found wherever they stand: for these,
    and for no other text, a search that asks for nothing else and has room for all items shows
    every item of every store that has the text as a part. -/
theorem parts_of_words_are_found_iff_steady (query : String) :
    (∀ store : Store, ∀ item ∈ store.items, item.HasPart query → ∀ limit : Option Nat,
      store.size ≤ limit.getD defaultPageSize →
      item ∈ (store.search { query := some query, limit }).items) ↔
      Text.Steady query.toList := by
  rw [← Item.mentions_of_hasPart_iff]
  constructor
  · intro hfound item hpart
    -- a store with nothing but the item has room for it
    have hroom : (Store.mk [item]).size ≤ (some 1).getD defaultPageSize := Nat.le_refl 1
    have hmem := hfound ⟨[item]⟩ item (List.mem_singleton_self item) hpart (some 1) hroom
    exact ((Store.mem_items_search_iff hroom).mp hmem).2
  · intro hmentions store item hitem hpart limit hroom
    exact (Store.mem_items_search_iff hroom).mpr ⟨hitem, hmentions item hpart⟩

/-- The beginning of a Greek word is not found in it: the sigma that it ends with has the form of
    the end of a word when it is put into lower case by itself. -/
theorem beginning_with_sigma_is_not_found :
    let item : Item :=
      { id := "odyssee", german := "ΟΔΥΣΣΕΙΑ", bulgarian := "Одисея", partOfSpeech := "noun" }
    let store : Store := ⟨[item]⟩
    item.HasPart "ΟΔΥΣ" ∧ store.size ≤ 1 ∧
      item ∉ (store.search { query := some "ΟΔΥΣ", limit := some 1 }).items := by
  decide +kernel

end BilingualLessons.Vocabulary
