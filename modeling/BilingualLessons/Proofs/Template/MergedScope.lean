import BilingualLessons.Template.Scope

namespace BilingualLessons

/-!
# Frames laid over a map

A scope is looked up frame by frame and never merged.  Laying a frame over a map gives the map
that answers every look-up in the same way.

* `Fields.overwrite` — fields with others over them.
* `loopValue?` — what the frame of a loop binds apart from the fields of its element.
* `Frame.onto` — what a frame binds, over a map.
* `lookup_onto` — a frame over a map, and the map with the frame laid over it.
-/

/-- The fields of an object; none of any other value. -/
def Json.fields : Json → Fields
  | .object fields => fields
  | _ => []

theorem Json.field?_eq_get?_fields (key : String) (v : Json) :
    v.field? key = Fields.get? key v.fields := by
  cases v <;> rfl

namespace Fields

/-- Fields with those of `added` over them. Of several added fields with one key the first
    counts, as it does in look-up. -/
def overwrite (base added : Fields) : Fields := base.insertAll added.reverse

theorem overwrite_cons (base : Fields) (key : String) (value : Json) (added : Fields) :
    base.overwrite ((key, value) :: added) = (base.overwrite added).insert key value := by
  simp [overwrite, insertAll]

/-- The added fields decide, and the others where these have nothing. -/
theorem get?_overwrite (key : String) (base added : Fields) :
    get? key (base.overwrite added) = (get? key added).or (get? key base) := by
  induction added with
  | nil => rfl
  | cons field added ih =>
    obtain ⟨k, v⟩ := field
    rw [overwrite_cons, get?_insert, get?_cons]
    split
    · rfl
    · exact ih

end Fields

namespace Template

/-- The value that the frame of a loop binds to one of its four names. -/
def loopValue? (key : String) (item : Json) (index length : Nat) : Option Json :=
  if key = "this" then some item
  else if key = "@index" then some (.ofNat index)
  else if key = "@first" then some (.bool (index = 0))
  else if key = "@last" then some (.bool (index + 1 = length))
  else none

/-- The frame of a loop binds its four names, and then the fields of its element. -/
theorem get?_iteration (key : String) (item : Json) (index length : Nat) :
    Frame.get? key (.iteration item index length)
      = (loopValue? key item index length).or (item.field? key) := by
  simp only [Frame.get?, loopValue?]
  grind

/-- The four names stand for the element, its index, and whether it is the first or the last. -/
theorem eq_of_loopValue? {key : String} {item v : Json} {index length : Nat}
    (h : loopValue? key item index length = some v) :
    v = item ∨ v = .ofNat index ∨ v = .bool (index = 0) ∨ v = .bool (index + 1 = length) := by
  unfold loopValue? at h
  grind

/-- The map `outer` with what a frame binds over it; the frame of a loop lays the fields of its
    element over the map, and `this`, `@index`, `@first` and `@last` over both. -/
def Frame.onto (outer : Fields) : Frame → Fields
  | .values fields => outer.overwrite fields
  | .iteration item index length =>
    ((((outer.overwrite item.fields).insert "this" item).insert "@index" (.ofNat index)).insert
      "@first" (.bool (index = 0))).insert "@last" (.bool (index + 1 = length))

/-- What a frame binds counts, and the map where the frame binds nothing. -/
theorem get?_onto (key : String) (outer : Fields) (frame : Frame) :
    Fields.get? key (frame.onto outer) = (frame.get? key).or (Fields.get? key outer) := by
  cases frame with
  | values fields => exact Fields.get?_overwrite key outer fields
  | iteration item index length =>
    simp only [Frame.onto, Frame.get?, Fields.get?_insert, Fields.get?_overwrite,
      Json.field?_eq_get?_fields]
    -- the four names are different, so it does not matter which of them is asked for first
    by_cases hthis : key = "this"
    · subst hthis
      simp
    · by_cases hindex : key = "@index"
      · subst hindex
        simp
      · by_cases hfirst : key = "@first"
        · subst hfirst
          simp
        · by_cases hlast : key = "@last"
          · subst hlast
            simp
          · simp only [if_neg hthis, if_neg hindex, if_neg hfirst, if_neg hlast,
              if_neg (Ne.symm hthis), if_neg (Ne.symm hindex), if_neg (Ne.symm hfirst),
              if_neg (Ne.symm hlast)]

/-- The innermost frame decides, and the others where it binds nothing. -/
theorem lookup_cons (frame : Frame) (scope : Scope) (key : String) :
    Scope.lookup (frame :: scope) key = (frame.get? key).or (Scope.lookup scope key) := by
  rw [Scope.lookup, List.findSome?_cons]
  cases frame.get? key <;> rfl

/-- **Merging.** A frame over a map binds what the map does with the frame laid over it. -/
theorem lookup_onto (frame : Frame) (outer : Fields) (key : String) :
    Scope.lookup [frame, .values outer] key = Scope.lookup [.values (frame.onto outer)] key := by
  simp only [lookup_cons, Frame.get?, get?_onto, Option.or_assoc]

end Template

end BilingualLessons
