import BilingualLessons.Proofs.Template.NamedKeys

namespace BilingualLessons.Template

/-!
# The names of a loop

The frame of a loop binds `this`, `@index`, `@first` and `@last` before anything further out, so
the bare names mean the same whatever surrounds the loop.  A path that goes on behind such a name
is looked up as a whole first, in all frames: a key with this very text further out takes the place
of the element.

* `loopNames` — the four names.
* `get?_turn_eq_none_iff` — the paths that the frame of a loop leaves to the frames further out.
* `resolve_turn_congr` — where two surroundings bind the whole path alike, it has the same value.
* `loop_paths_stay_inside_iff` — when a path from a name of the loop cannot be captured.
* `outer_key_captures_the_element` — a key of the context that stands before a field of the element.
-/

/-- The names that the frame of a loop binds apart from the fields of its element. -/
def loopNames : List String := ["this", "@index", "@first", "@last"]

/-- The frame of a loop binds its names. -/
theorem loopValue?_eq_none_iff {key : String} {item : Json} {index length : Nat} :
    loopValue? key item index length = none ↔ key ∉ loopNames := by
  unfold loopValue? loopNames
  grind

section

variable {item : Json} {index length : Nat} {path : String}

/-- The frame of a loop leaves to the frames further out what is neither one of its names nor a
    field of its element. -/
theorem get?_turn_eq_none_iff {key : String} :
    Frame.get? key (.iteration item index length) = none
      ↔ key ∉ loopNames ∧ item.field? key = none := by
  rw [get?_iteration, Option.or_eq_none_iff, loopValue?_eq_none_iff]

/-- What the frame of a loop binds does not depend on the frames further out. -/
theorem lookup_turn_of_bound {key : String}
    (h : Frame.get? key (.iteration item index length) ≠ none) (outer outer' : Scope) :
    Scope.lookup (.iteration item index length :: outer) key
      = Scope.lookup (.iteration item index length :: outer') key := by
  obtain ⟨v, hv⟩ := Option.ne_none_iff_exists'.mp h
  simp [lookup_cons, hv]

/-- A path from a name of the loop has the same value in two surroundings if the frame of the loop
    binds the whole path, or the surroundings bind it alike. -/
theorem resolve_turn_congr (h : firstSegment path ∈ loopNames) {outer outer' : Scope}
    (hpath : Frame.get? path (.iteration item index length) ≠ none ∨
      outer.lookup path = outer'.lookup path) :
    Scope.resolve (.iteration item index length :: outer) path
      = Scope.resolve (.iteration item index length :: outer') path := by
  refine resolve_congr fun key hkey => ?_
  -- the path is looked up as a whole and by its first segment, which is a name of the loop
  rcases List.mem_pair.mp (lookupKeys_subset path hkey) with rfl | rfl
  · rcases hpath with hbound | hsame
    · exact lookup_turn_of_bound hbound outer outer'
    · rw [lookup_cons, lookup_cons, hsame]
  · exact lookup_turn_of_bound (fun hnone => (get?_turn_eq_none_iff.mp hnone).1 h) outer outer'

/-- What the frame of a loop leaves to the frames further out has the value that it is bound to
    there. -/
theorem resolve_turn_of_outer {outer : Scope} {v : Json}
    (hpath : Frame.get? path (.iteration item index length) = none)
    (houter : outer.lookup path = some v) :
    Scope.resolve (.iteration item index length :: outer) path = v.nonNull := by
  have hlookup : Scope.lookup (.iteration item index length :: outer) path = some v := by
    rw [lookup_cons, hpath, Option.none_or, houter]
  rw [Scope.resolve, hlookup]

end

/-- **When a path of a loop stays inside.** A path from a name of the loop has the same value in
    two surroundings if it is a bare name, or the element has a field of that whole text, or both
    surroundings bind the whole path alike. A surrounding that binds the whole path captures it
    where neither the loop nor the element does. So no surroundings can capture a path exactly if
    it is a bare name or the whole of it is a field of the element. -/
theorem loop_paths_stay_inside_iff (item : Json) (index length : Nat) (path : String)
    (h : firstSegment path ∈ loopNames) :
    let turn := Frame.iteration item index length
    (∀ outer outer' : Scope, (path ∈ loopNames ∨ item.field? path ≠ none ∨
        outer.lookup path = outer'.lookup path) →
      Scope.resolve (turn :: outer) path = Scope.resolve (turn :: outer') path) ∧
    (∀ (outer : Scope) (v : Json), path ∉ loopNames → item.field? path = none →
      outer.lookup path = some v → Scope.resolve (turn :: outer) path = v.nonNull) ∧
    ((∀ outer outer' : Scope,
        Scope.resolve (turn :: outer) path = Scope.resolve (turn :: outer') path)
      ↔ path ∈ loopNames ∨ item.field? path ≠ none) := by
  intro turn
  have hbound : turn.get? path ≠ none ↔ path ∈ loopNames ∨ item.field? path ≠ none := by
    rw [Ne, get?_turn_eq_none_iff, not_and_or, not_not]
  refine ⟨fun outer outer' hsame => ?_, fun outer v hname hfield houter => ?_, ?_, ?_⟩
  · rcases hsame with hname | hfield | hsame
    · exact resolve_turn_congr h (Or.inl (hbound.mpr (Or.inl hname)))
    · exact resolve_turn_congr h (Or.inl (hbound.mpr (Or.inr hfield)))
    · exact resolve_turn_congr h (Or.inr hsame)
  · exact resolve_turn_of_outer (get?_turn_eq_none_iff.mpr ⟨hname, hfield⟩) houter
  · -- a path that the frame does not bind means whatever the surroundings say
    intro hall
    by_contra hfree
    have hnone : turn.get? path = none := not_not.mp (hbound.not.mpr hfree)
    have hanswer : ∀ v : Json, Scope.resolve [turn, .values [(path, v)]] path = v.nonNull :=
      fun v => resolve_turn_of_outer hnone (by simp [Scope.lookup, Frame.get?, Fields.get?_cons])
    have hsame := hall [.values [(path, .bool true)]] [.values [(path, .bool false)]]
    rw [hanswer, hanswer] at hsame
    exact absurd hsame (by decide)
  · exact fun hinside outer outer' => resolve_turn_congr h (Or.inl (hbound.mpr hinside))

/-- The German of an element, with another word of that name further out, and with a key of the
    whole path further out. -/
theorem loop_paths_stay_inside_for_a_word :
    let word := Json.object [("german", .string "Haus")]
    let turn := Frame.iteration word 0 1
    firstSegment "this.german" ∈ loopNames ∧
    Scope.resolve [turn, .values [("german", .string "Brot")]] "this.german"
      = Scope.resolve [turn] "this.german" ∧
    Scope.resolve [turn, .values [("this.german", .string "Brot")]] "this.german"
      = some (.string "Brot") := by
  intro word turn
  have h : firstSegment "this.german" ∈ loopNames := by decide +kernel
  have hpath := loop_paths_stay_inside_iff word 0 1 "this.german" h
  exact ⟨h, hpath.1 _ _ (Or.inr (Or.inr (by decide +kernel))),
    hpath.2.1 [.values [("this.german", .string "Brot")]] (.string "Brot") (by decide +kernel)
      (by decide +kernel) (by decide +kernel)⟩

/-- **A key of the context captures the element.** In a loop over words, the German of each word is
    what the context holds under `this.german`; without that key it is the German of the word. -/
theorem outer_key_captures_the_element :
    let body := openTag .each "words" ++ tagText "this.german" ++ closeTag .each
    let words : String × Json := ("words", .array [.object [("german", .string "Haus")]])
    renderBody 1 body ⟨[("this.german", .string "Brot"), words]⟩ = .ok "Brot" ∧
    renderBody 1 body ⟨[words]⟩ = .ok "Haus" ∧
    ¬ ∀ (item : Json) (index length : Nat) (path : String) (outer outer' : Scope),
      firstSegment path ∈ loopNames →
        Scope.resolve (.iteration item index length :: outer) path
          = Scope.resolve (.iteration item index length :: outer') path := by
  refine ⟨by decide +kernel, by decide +kernel, fun hall => ?_⟩
  have hsame := hall (.object [("german", .string "Haus")]) 0 1 "this.german"
    [.values [("this.german", .string "Brot")]] [.values []] (by decide +kernel)
  exact absurd hsame (by decide +kernel)

end BilingualLessons.Template
