import BilingualLessons.Proofs.Json.Parts
import BilingualLessons.Proofs.Template.MergedScope
import BilingualLessons.Template.Context

namespace BilingualLessons.Template

/-!
# What a scope can give

A path leads to values that are in the scope already, at whatever depth; nothing is made up but
the numbers and truth values that a loop counts with.

* `Scope.parts`, `Context.parts` — all values of a scope and of a context, at any depth.
* `parts_subset_of_resolve` — the value of a path has no parts but those of the scope.
* `mem_parts_of_turn` — a turn of a loop adds to the scope only a number and truth values.
-/

/-- All values that a frame binds, and all values in them. -/
def Frame.parts : Frame → List Json
  | .values fields => Json.partsOfFields fields
  | .iteration item index length =>
    [.ofNat index, .bool (index = 0), .bool (index + 1 = length)] ++ item.parts

/-- All values in the frames of a scope. -/
def Scope.parts (scope : Scope) : List Json := scope.flatMap Frame.parts

/-- All values of a context. -/
def Context.parts (context : Context) : List Json := Json.partsOfFields context.values

/-- The texts of a context, at any depth. -/
def Context.texts (context : Context) : List String := context.parts.filterMap Json.asString?

/-- Before any loop the values are those of the context. -/
theorem parts_of_context (context : Context) :
    Scope.parts [.values context.values] = context.parts := by
  simp [Scope.parts, Frame.parts, Context.parts]

/-! ### Following a path -/

theorem parts_subset_of_frame {frame : Frame} {key : String} {v : Json}
    (h : frame.get? key = some v) : v.parts ⊆ frame.parts := by
  cases frame with
  | values fields => exact Json.parts_subset_of_get? h
  | iteration item index length =>
    rw [get?_iteration, Option.or_eq_some_iff] at h
    rw [Frame.parts]
    -- a name of the loop, or else a field of its element
    rcases h with hname | ⟨_, hfield⟩
    · rcases eq_of_loopValue? hname with rfl | rfl | rfl | rfl
      · exact List.subset_append_right _ _
      all_goals simp [Json.ofNat, Json.parts]
    · cases item with
      | object fields => exact List.subset_append_of_subset_right _ (Json.parts_field_subset hfield)
      | _ => exact absurd hfield (by simp [Json.field?])

theorem parts_subset_of_lookup {scope : Scope} {key : String} {v : Json}
    (h : scope.lookup key = some v) : v.parts ⊆ scope.parts := by
  obtain ⟨frame, hframe, hget⟩ := List.exists_of_findSome?_eq_some h
  exact fun part hpart =>
    List.mem_flatMap.mpr ⟨frame, hframe, parts_subset_of_frame hget hpart⟩

theorem parts_subset_of_step {v w : Json} {segment : List Char} (h : step v segment = some w) :
    w.parts ⊆ v.parts := by
  cases v with
  | array items =>
    obtain ⟨index, _, hitem⟩ := Option.bind_eq_some_iff.mp h
    exact Json.parts_item_subset (List.mem_of_getElem? hitem)
  | object fields => exact Json.parts_field_subset h
  | _ => exact absurd h (by simp [step])

theorem parts_subset_of_walk {v w : Json} {path : List (List Char)} (h : walk v path = some w) :
    w.parts ⊆ v.parts := by
  induction path generalizing v with
  | nil =>
    obtain rfl := Option.some.inj h
    exact fun _ => id
  | cons segment rest ih =>
    obtain ⟨next, hstep, hrest⟩ := Option.bind_eq_some_iff.mp h
    exact List.Subset.trans (ih hrest) (parts_subset_of_step hstep)

/-- A value that is not `null` is the value itself. -/
theorem nonNull_eq_some_iff {v w : Json} : v.nonNull = some w ↔ v = w ∧ w ≠ .null := by
  unfold Json.nonNull
  cases v <;> simp [Json.isNull] <;> rintro rfl <;> simp

/-- **Paths.** The value of a path is in the scope. -/
theorem parts_subset_of_resolve {scope : Scope} {path : String} {v : Json}
    (h : scope.resolve path = some v) : v.parts ⊆ scope.parts := by
  unfold Scope.resolve at h
  -- the whole path is looked up first; only if nothing has that name its first segment is
  split at h
  · next w hlookup =>
    obtain ⟨rfl, _⟩ := nonNull_eq_some_iff.mp h
    exact parts_subset_of_lookup hlookup
  · split at h
    · exact absurd h (by simp)
    · split at h
      · exact absurd h (by simp)
      · next root hroot =>
        obtain ⟨w, hwalk, hw⟩ := Option.bind_eq_some_iff.mp h
        obtain ⟨rfl, _⟩ := nonNull_eq_some_iff.mp hw
        exact List.Subset.trans (parts_subset_of_walk hwalk) (parts_subset_of_lookup hroot)

/-! ### Turns of a loop -/

/-- The element of a turn is in the scope of the loop. -/
theorem parts_item_subset_of_resolve {scope : Scope} {path : String} {items : List Json}
    (h : scope.resolve path = some (.array items)) {item : Json} (hitem : item ∈ items) :
    item.parts ⊆ scope.parts :=
  List.Subset.trans (Json.parts_item_subset hitem) (parts_subset_of_resolve h)

/-- **Turns.** In the turn of an element of the scope there is nothing new but numbers and truth
    values. -/
theorem mem_parts_of_turn {scope : Scope} {item part : Json} {index length : Nat}
    (hitem : item.parts ⊆ scope.parts)
    (h : part ∈ Scope.parts (.iteration item index length :: scope)) :
    part ∈ scope.parts ∨ part.kind = .number ∨ part.kind = .boolean := by
  simp only [Scope.parts, List.flatMap_cons, Frame.parts, List.mem_append, List.mem_cons,
    List.not_mem_nil, or_false] at h
  -- the three values that a loop counts with, the element, and the scope around the loop
  rcases h with ((rfl | rfl | rfl) | hpart) | hscope
  · exact Or.inr (Or.inl rfl)
  · exact Or.inr (Or.inr rfl)
  · exact Or.inr (Or.inr rfl)
  · exact Or.inl (hitem hpart)
  · exact Or.inl hscope

end BilingualLessons.Template
