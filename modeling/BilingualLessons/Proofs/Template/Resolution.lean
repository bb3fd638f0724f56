import BilingualLessons.Proofs.Template.PathCharacters
import BilingualLessons.Proofs.Template.ScopeParts

namespace BilingualLessons.Template

/-!
# Paths in one map

A scope keeps its frames apart and searches them one by one, for the whole path first and then for
the part before its first point.  All of this comes to a single map, in which the inner frames lie
over the outer ones, and to one walk from what the map holds.

* `Scope.merged` — the map; `get?_merged` says that it binds what the scope binds.
* `WritesIndex`, `Leads` — what an index looks like, and where a list of segments leads from a
  value; `indexOf?_eq_some_iff` and `walk_eq_some_iff` say that indexes are read and walks go that
  way.
* `segments_eq_splitOn`, `splitFirst?_eq_some_iff` — how points divide a path.
* `resolution_is_in_the_merged_map` — the value of a path in a scope, told by the map.
-/

/-! ### The merged map -/

/-- The map that a scope comes to: its frames laid one over the other, the innermost on top. -/
def Scope.merged (scope : Scope) : Fields :=
  scope.foldr (fun frame outer => frame.onto outer) []

/-- The merged map binds what the scope binds. -/
theorem get?_merged (scope : Scope) (key : String) :
    Fields.get? key scope.merged = scope.lookup key := by
  induction scope with
  | nil => rfl
  | cons frame outer ih =>
    rw [Scope.merged, List.foldr_cons, ← Scope.merged, get?_onto, ih, lookup_cons]

/-! ### Walks -/

/-- The text of an index: digits, with or without a plus sign before them, that write a number
    below `2^64`. -/
def WritesIndex (segment : List Char) (index : Nat) : Prop :=
  ∃ digits, (segment = digits ∨ segment = '+' :: digits) ∧ digits ≠ [] ∧
    (∀ c ∈ digits, c.isDigit = true) ∧ Nat.ofDigitChars 10 digits 0 = index ∧
    index < Nat.pow 2 64

/-- A text without a plus sign in front. -/
def withoutPlus : List Char → List Char
  | '+' :: rest => rest
  | cs => cs

/-- An index is the number that the text behind a plus sign writes in decimal, if there are digits
    only and the number is below the bound. -/
theorem indexOf?_eq_some_iff_digits {segment : List Char} {index : Nat} :
    indexOf? segment = some index ↔ withoutPlus segment ≠ [] ∧
      (∀ c ∈ withoutPlus segment, c.isDigit = true) ∧
      Nat.ofDigitChars 10 (withoutPlus segment) 0 = index ∧ index < Nat.pow 2 64 := by
  have hread : indexOf? segment =
      if (withoutPlus segment).isEmpty || !(withoutPlus segment).all Char.isDigit then none
      else if Nat.ofDigitChars 10 (withoutPlus segment) 0 < Nat.pow 2 64 then
        some (Nat.ofDigitChars 10 (withoutPlus segment) 0)
      else none := by
    simp only [Nat.ofDigitChars, Nat.mul_comm 10]
    rfl
  rw [hread]
  -- what is left is about digits, wherever they come from
  generalize withoutPlus segment = digits
  by_cases hshape : digits ≠ [] ∧ ∀ c ∈ digits, c.isDigit = true
  · have hdigits : (digits.isEmpty || !digits.all Char.isDigit) = false := by
      simpa using hshape
    rw [hdigits, if_neg Bool.false_ne_true, Option.ite_none_right_eq_some, Option.some.injEq]
    constructor
    · rintro ⟨hbound, rfl⟩
      exact ⟨hshape.1, hshape.2, rfl, hbound⟩
    · rintro ⟨_, _, rfl, hbound⟩
      exact ⟨hbound, rfl⟩
  · have hdigits : (digits.isEmpty || !digits.all Char.isDigit) = true := by
      simpa [Classical.or_iff_not_imp_left] using hshape
    rw [hdigits, if_pos rfl]
    simp only [reduceCtorEq, false_iff]
    exact fun h => hshape ⟨h.1, h.2.1⟩

/-- **Indexes** are read as they are written. -/
theorem indexOf?_eq_some_iff {segment : List Char} {index : Nat} :
    indexOf? segment = some index ↔ WritesIndex segment index := by
  rw [indexOf?_eq_some_iff_digits]
  constructor
  · intro h
    refine ⟨withoutPlus segment, ?_, h⟩
    unfold withoutPlus
    split
    · exact Or.inr rfl
    · exact Or.inl rfl
  · rintro ⟨digits, hsegment, h⟩
    have hsame : withoutPlus segment = digits := by
      rcases hsegment with rfl | rfl
      · unfold withoutPlus
        split
        · -- a plus sign is no digit
          exact absurd (h.2.1 '+' (by simp)) (by decide)
        · rfl
      · rfl
    rw [hsame]
    exact h

/-- Where segments lead from a value: each names a field of an object or writes the index of an
    element of an array. -/
inductive Leads : Json → List (List Char) → Json → Prop
  | here (v : Json) : Leads v [] v
  | field {fields : Fields} {segment : List Char} {later : List (List Char)} {v w : Json} :
      Fields.get? (String.ofList segment) fields = some v → Leads v later w →
      Leads (.object fields) (segment :: later) w
  | item {items : List Json} {segment : List Char} {index : Nat} {later : List (List Char)}
      {v w : Json} :
      WritesIndex segment index → items[index]? = some v → Leads v later w →
      Leads (.array items) (segment :: later) w

/-- **Walks** go from field to field and from element to element. -/
theorem walk_eq_some_iff {v w : Json} {path : List (List Char)} :
    walk v path = some w ↔ Leads v path w := by
  constructor
  · intro h
    induction path generalizing v with
    | nil =>
      obtain rfl := Option.some.inj h
      exact .here v
    | cons segment later ih =>
      obtain ⟨next, hstep, hlater⟩ := Option.bind_eq_some_iff.mp h
      -- a step goes into a field or to an element, and nowhere from a scalar
      cases v with
      | object fields => exact .field hstep (ih hlater)
      | array items =>
        obtain ⟨index, hindex, hitem⟩ := Option.bind_eq_some_iff.mp hstep
        exact .item (indexOf?_eq_some_iff.mp hindex) hitem (ih hlater)
      | _ => exact absurd hstep (by simp [step])
  · intro h
    induction h with
    | here v => rfl
    | field hfield _ ih => exact Option.bind_eq_some_iff.mpr ⟨_, hfield, ih⟩
    | item hindex hitem _ ih =>
      have hstep := Option.bind_eq_some_iff.mpr ⟨_, indexOf?_eq_some_iff.mpr hindex, hitem⟩
      exact Option.bind_eq_some_iff.mpr ⟨_, hstep, ih⟩

/-! ### Points -/

theorem segments_eq_splitOn (cs : List Char) : segments cs = cs.splitOn '.' := by
  induction cs with
  | nil => rfl
  | cons c rest ih =>
    by_cases hc : c = '.'
    · subst hc
      rw [segments_point, ih]
      simp [List.splitOn, List.splitOnP_cons_eq_if_modifyHead]
    · obtain ⟨first, later, hrest, hsegments⟩ := segments_cons hc rest
      rw [hsegments, List.splitOn, List.splitOnP_cons_eq_if_modifyHead, ← List.splitOn, ← ih, hrest]
      simp [hc]

/-- The part before the first point holds no point. -/
theorem splitFirst?_eq_some_iff {cs head tail : List Char} :
    splitFirst? cs = some (head, tail) ↔ cs = head ++ '.' :: tail ∧ '.' ∉ head := by
  induction cs generalizing head with
  | nil => simp [splitFirst?]
  | cons c rest ih =>
    rw [splitFirst?]
    by_cases hc : c = '.'
    · subst hc
      rw [if_pos rfl]
      cases head with
      | nil => simp [eq_comm]
      | cons d more =>
        -- the part in front would start with the point
        simp only [Option.some.injEq, Prod.mk.injEq, reduceCtorEq, false_and, List.cons_append,
          List.cons.injEq, false_iff, not_and]
        rintro ⟨rfl, _⟩
        simp
    · rw [if_neg hc, Option.map_eq_some_iff]
      cases head with
      | nil => simp [hc]
      | cons d more =>
        simp only [Prod.exists, Prod.mk.injEq, List.cons.injEq, List.cons_append, List.mem_cons,
          not_or]
        constructor
        · rintro ⟨_, _, hrest, ⟨rfl, rfl⟩, rfl⟩
          obtain ⟨hrest, hmore⟩ := ih.mp hrest
          exact ⟨⟨rfl, hrest⟩, Ne.symm hc, hmore⟩
        · rintro ⟨⟨rfl, hrest⟩, _, hmore⟩
          exact ⟨more, tail, ih.mpr ⟨hrest, hmore⟩, ⟨rfl, rfl⟩, rfl⟩

/-- The part of a text before its first point and the part behind it. -/
theorem splitFirst?_toList_eq_some_iff {path head tail : String} :
    splitFirst? path.toList = some (head.toList, tail.toList)
      ↔ path = head ++ "." ++ tail ∧ '.' ∉ head.toList := by
  rw [splitFirst?_eq_some_iff, ← String.toList_inj]
  simp

/-! ### Values of paths -/

section

variable {scope : Scope} {path : String}

/-- A path that is bound as it stands has the value that it is bound to. -/
theorem resolve_of_bound {v w : Json} (hpath : scope.lookup path = some w) :
    scope.resolve path = some v ↔ v ≠ .null ∧ w = v := by
  rw [Scope.resolve, hpath]
  exact nonNull_eq_some_iff.trans ⟨fun ⟨heq, hv⟩ => ⟨hv, heq⟩, fun ⟨hv, heq⟩ => ⟨heq, hv⟩⟩

/-- Any other path leads on from what the part before its first point is bound to. -/
theorem resolve_of_unbound {v : Json} (hpath : scope.lookup path = none) :
    scope.resolve path = some v ↔ v ≠ .null ∧ ∃ head tail root, path = head ++ "." ++ tail ∧
      '.' ∉ head.toList ∧ scope.lookup head = some root ∧
        Leads root (tail.toList.splitOn '.') v := by
  rw [Scope.resolve, hpath]
  constructor
  · intro h
    -- a path without a point has no part to start from
    cases hsplit : splitFirst? path.toList with
    | none => simp [hsplit] at h
    | some parts =>
      obtain ⟨head, tail⟩ := parts
      cases hroot : scope.lookup (String.ofList head) with
      | none => simp [hsplit, hroot] at h
      | some root =>
        simp only [hsplit, hroot] at h
        obtain ⟨w, hwalk, hw⟩ := Option.bind_eq_some_iff.mp h
        obtain ⟨rfl, hv⟩ := nonNull_eq_some_iff.mp hw
        have hparts : splitFirst? path.toList
            = some ((String.ofList head).toList, (String.ofList tail).toList) := by
          simpa using hsplit
        obtain ⟨hpoint, hhead⟩ := splitFirst?_toList_eq_some_iff.mp hparts
        refine ⟨hv, String.ofList head, String.ofList tail, root, hpoint, hhead, hroot, ?_⟩
        rw [String.toList_ofList, ← segments_eq_splitOn]
        exact walk_eq_some_iff.mp hwalk
  · rintro ⟨hv, head, tail, root, hpoint, hhead, hroot, hleads⟩
    have hsplit := splitFirst?_toList_eq_some_iff.mpr ⟨hpoint, hhead⟩
    have hwalk : walk root (segments tail.toList) = some v := by
      rw [segments_eq_splitOn]
      exact walk_eq_some_iff.mpr hleads
    simp only [hsplit, String.ofList_toList, hroot, hwalk]
    exact nonNull_eq_some_iff.mpr ⟨rfl, hv⟩

end

/-- **Paths in one map.** A path has a value in a scope if the map of all frames, the inner ones
    laid over the outer ones, binds the whole path to it; or, where the map does not bind the whole
    path, if it binds the part before the first point to something from which the segments behind
    that point lead to the value. `null` is no value. -/
theorem resolution_is_in_the_merged_map (scope : Scope) (path : String) (v : Json) :
    scope.resolve path = some v ↔ v ≠ .null ∧
      (Fields.get? path scope.merged = some v ∨
        Fields.get? path scope.merged = none ∧ ∃ head tail root, path = head ++ "." ++ tail ∧
          '.' ∉ head.toList ∧ Fields.get? head scope.merged = some root ∧
            Leads root (tail.toList.splitOn '.') v) := by
  simp only [get?_merged]
  cases hpath : scope.lookup path with
  | some w => simp [resolve_of_bound hpath]
  | none => simp [resolve_of_unbound hpath]

/-- A dotted key further out wins over the walk from a name further in; an index may have a plus
    sign and leading zeros, but no minus sign. -/
example :
    let scope : Scope :=
      [.iteration (.object [("tags", .array [.string "a", .string "b"])]) 0 1,
        .values [("this.tags.0", .string "c")]]
    scope.resolve "this.tags.0" = some (.string "c") ∧
    scope.resolve "this.tags.+01" = some (.string "b") ∧
    scope.resolve "tags.-1" = none := by
  decide +kernel

end BilingualLessons.Template
