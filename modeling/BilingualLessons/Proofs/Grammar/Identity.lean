import BilingualLessons.Proofs.Loading.Reloading

namespace BilingualLessons.Grammar

open Loading

/-!
# The ids of concepts

A concept is judged by itself: whether another one has its id already is never asked.  So the ids
of what a catalogue serves are distinct only if those of its records are.

* `Concept.ofSource` — the concepts among the records of a source; `Catalogue.records_eq` — that a
  catalogue serves these.
* `Catalogue.byId?_eq_some_iff_first` — the first concept of an id is the one that is found.
* `concepts_share_the_ids_of_their_records` — when ids tell the concepts of a catalogue apart.
-/

/-! ### What is served -/

/-- The concepts among the records of a source, in the order of the records. -/
def Concept.ofSource (source : Source) : List Concept :=
  match source.fetch with
  | .ok batch => batch.records.filterMap fun record => (ofRecord record).toOption
  | .error _ => []

namespace Catalogue

/-- A catalogue serves every concept of its source, or the built-in one if there is none. -/
theorem records_eq (source : Source) :
    (conceptRepository source).contents.records
      = if Concept.ofSource source = [] then [Concept.fallback] else Concept.ofSource source := by
  unfold Repository.contents Concept.ofSource
  have hsource : (conceptRepository source).source = source := rfl
  rw [hsource]
  cases source.fetch with
  | error fault => rfl
  | ok batch =>
    have hjudge : (conceptRepository source).judge = Concept.judge := rfl
    -- no concept is held against those that have been accepted before
    have hsingle : ∀ kept record, Concept.judge kept record = Concept.ofRecord record :=
      fun _ _ => rfl
    have haccepted := accepted_verdicts_of_forall hsingle [] batch.records
    simp only [Contents.ofBatch, sift_eq, hjudge, haccepted, List.nil_append, List.isEmpty_iff]
    rfl

/-- Valid concepts that are written out are served one and all. -/
theorem records_of_valid (name : String) {concepts : List Concept} (hsome : concepts ≠ [])
    (hvalid : ∀ concept ∈ concepts, concept.validate = .ok ()) :
    (conceptRepository (.records name (concepts.map Concept.encode))).contents.records
      = concepts := by
  have hpairs : concepts.Pairwise fun _ _ => True := List.pairwise_of_forall fun _ _ => trivial
  refine (contents_of_encoded hsome rfl hpairs ?_).1
  intro concept hmem before origin _
  exact Concept.ofRecord_eq_ok_iff.mpr ⟨concept.decode_encode, hvalid concept hmem⟩

/-! ### Looking up an id -/

variable {catalogue : Catalogue} {concept : Concept}

/-- A concept is found under its id exactly if it stands before all others that have the id. -/
theorem byId?_eq_some_iff_first :
    catalogue.byId? concept.id = some concept ↔
      ∃ before after, catalogue.records = before ++ concept :: after ∧
        ∀ earlier ∈ before, earlier.id ≠ concept.id := by
  rw [byId?, List.find?_eq_some_iff_append]
  simp

/-- Some concept is found under the id of any that is served, and it has that id. -/
theorem exists_byId? (h : concept ∈ catalogue.records) :
    ∃ found ∈ catalogue.records, catalogue.byId? concept.id = some found ∧
      found.id = concept.id := by
  cases hfound : catalogue.byId? concept.id with
  | none => exact absurd (List.find?_eq_none.mp hfound concept h) (by simp)
  | some found =>
    exact ⟨found, List.mem_of_find?_eq_some hfound, rfl, by simpa using List.find?_some hfound⟩

/-- Every concept is found under its id exactly if no two of them share one. -/
theorem forall_byId?_iff :
    (∀ concept ∈ catalogue.records, catalogue.byId? concept.id = some concept) ↔
      ∀ concept ∈ catalogue.records, ∀ other ∈ catalogue.records,
        other.id = concept.id → other = concept := by
  constructor
  · intro hfound concept hmem other hother hid
    -- looking up the one id gives both concepts
    have hsame : some other = some concept := by
      rw [← hfound other hother, ← hfound concept hmem, hid]
    exact Option.some.inj hsame
  · intro hunique concept hmem
    obtain ⟨found, hserved, hfound, hid⟩ := exists_byId? hmem
    rw [hfound, hunique concept hmem found hserved hid]

end Catalogue

/-- **Concepts are told apart by their ids as far as their records are.** What a catalogue serves
    from any source has distinct ids exactly if the valid records of the source do; nothing else
    sees to it. Under the id of a concept the first one is found that has it, so every concept is
    found under its own id exactly if no two different ones share an id. -/
theorem concepts_share_the_ids_of_their_records (source : Source) :
    let catalogue : Catalogue := (conceptRepository source).contents
    let given := Concept.ofSource source
    catalogue.records = (if given = [] then [Concept.fallback] else given) ∧
    ((catalogue.records.map (·.id)).Nodup ↔ (given.map (·.id)).Nodup) ∧
    (∀ concept, catalogue.byId? concept.id = some concept ↔
      ∃ before after, catalogue.records = before ++ concept :: after ∧
        ∀ earlier ∈ before, earlier.id ≠ concept.id) ∧
    ((∀ concept ∈ catalogue.records, catalogue.byId? concept.id = some concept) ↔
      ∀ concept ∈ catalogue.records, ∀ other ∈ catalogue.records,
        other.id = concept.id → other = concept) := by
  intro catalogue given
  have hrecords : catalogue.records = if given = [] then [Concept.fallback] else given :=
    Catalogue.records_eq source
  refine ⟨hrecords, ?_, fun concept => Catalogue.byId?_eq_some_iff_first,
    Catalogue.forall_byId?_iff⟩
  rw [hrecords]
  -- the built-in concept is alone, and so are no concepts at all
  by_cases hnone : given = []
  · rw [if_pos hnone, hnone]
    simp
  · rw [if_neg hnone]

/-- Two concepts that share an id are both served, and only the first can be found. -/
theorem concepts_of_one_id_are_served :
    let first : Concept := { Concept.fallback with id := "articles" }
    let second : Concept := { first with level := .b1 }
    let catalogue : Catalogue :=
      (conceptRepository (.records "records" ([first, second].map Concept.encode))).contents
    catalogue.records = [first, second] ∧ catalogue.byId? second.id = some first ∧
      ¬ (catalogue.records.map (·.id)).Nodup ∧
      ¬ ∀ concept ∈ catalogue.records, catalogue.byId? concept.id = some concept := by
  intro first second catalogue
  have hvalid : ∀ concept ∈ [first, second], concept.validate = .ok () := by decide +kernel
  have hsome : [first, second] ≠ [] := by simp
  have hrecords : catalogue.records = [first, second] :=
    Catalogue.records_of_valid "records" hsome hvalid
  have hid : second.id = first.id := rfl
  have hfound : catalogue.byId? second.id = some first := by
    rw [hid]
    exact Catalogue.byId?_eq_some_iff_first.mpr ⟨[], [second], hrecords, by simp⟩
  have hids : catalogue.records.map (·.id) = ["articles", "articles"] := by
    rw [hrecords]
    rfl
  refine ⟨hrecords, hfound, ?_, ?_⟩
  · rw [hids]
    decide
  · intro hall
    have hsecond : catalogue.byId? second.id = some second := hall second (by simp [hrecords])
    have hsame : first = second := Option.some.inj (hfound.symm.trans hsecond)
    have hlevel : Level.a1 = Level.b1 := congrArg Concept.level hsame
    exact absurd hlevel (by decide)

end BilingualLessons.Grammar
