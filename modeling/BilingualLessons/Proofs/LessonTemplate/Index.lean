import BilingualLessons.LessonTemplate.Shelf
import Mathlib.Data.List.Basic

namespace BilingualLessons

/-!
# The index of a shelf

A shelf finds its templates in an index that is filled by one pass over them.  What the index has
is told by the list of the templates alone.

* `LessonTemplate.mem_uses_iff` — the uses of a template are its kind with each level that it
  covers.
* `Shelf.Index.templatesFor_enter`, `Shelf.Index.get?_enter` — what one template adds.
* `Shelf.Index.templatesFor_foldl`, `Shelf.Index.get?_foldl` — what templates in a row add.
* `Shelf.candidates_eq`, `Shelf.byId?_eq` — what a shelf finds; `Shelf.mem_candidates_iff`,
  `Shelf.byId?_eq_none_iff` and `Shelf.mem_records_of_byId?` say it of single templates.
-/

/-! ### Uses -/

namespace LessonTemplate

/-- A template is used for lessons of its kind at every level that it covers. -/
theorem mem_uses_iff {template : LessonTemplate} {kind : LessonKind} {level : Level} :
    (kind, level) ∈ template.uses ↔ template.kind = kind ∧ template.covers level = true := by
  rw [uses, List.mem_map]
  constructor
  · rintro ⟨found, hfound, heq⟩
    obtain ⟨hkind, rfl⟩ := Prod.mk.inj heq
    exact ⟨hkind, decide_eq_true (Level.mem_range.mp hfound)⟩
  · rintro ⟨hkind, hcovers⟩
    exact ⟨level, Level.mem_range.mpr (of_decide_eq_true hcovers), by rw [hkind]⟩

theorem nodup_uses (template : LessonTemplate) : template.uses.Nodup := by
  refine List.Pairwise.map _ ?_ (Level.nodup_range template.lowest template.highest)
  intro level other hne heq
  exact hne (Prod.mk.inj heq).2

end LessonTemplate

namespace Shelf

namespace Index

/-! ### One template -/

/-- A template stands behind those that are there, for its own uses and no other. -/
theorem templatesFor_enter (index : Index) (template : LessonTemplate) (kind : LessonKind)
    (level : Level) :
    (index.enter template).templatesFor kind level = index.templatesFor kind level ++
      if template.kind = kind ∧ template.covers level then [template] else [] := by
  rw [templatesFor, enter, Table.getD_foldl_push template.nodup_uses, templatesFor]
  by_cases huse : (kind, level) ∈ template.uses
  · rw [if_pos huse, if_pos (LessonTemplate.mem_uses_iff.mp huse)]
  · rw [if_neg huse, if_neg fun h => huse (LessonTemplate.mem_uses_iff.mpr h)]

/-- A template is found under its id, in place of one that is there. -/
theorem get?_enter (index : Index) (template : LessonTemplate) (id : String) :
    (index.enter template).byId.get? id
      = if id = template.id then some template else index.byId.get? id :=
  Table.get?_insert template.id id template index.byId

/-! ### Templates in a row -/

/-- The templates for a use come in the order in which they were entered. -/
theorem templatesFor_foldl (index : Index) (templates : List LessonTemplate) (kind : LessonKind)
    (level : Level) :
    (templates.foldl enter index).templatesFor kind level = index.templatesFor kind level ++
      templates.filter fun template => template.kind = kind ∧ template.covers level := by
  induction templates generalizing index with
  | nil => simp
  | cons template rest ih =>
    rw [List.foldl_cons, ih, templatesFor_enter, List.append_assoc]
    -- a template is behind those that were entered before it, so both sides keep the order
    by_cases huse : template.kind = kind ∧ template.covers level = true
    · rw [if_pos huse, List.filter_cons_of_pos (by simpa using huse), List.singleton_append]
    · rw [if_neg huse, List.filter_cons_of_neg (by simpa using huse), List.nil_append]

/-- Of the templates of one id the last one that was entered is found. -/
theorem get?_foldl (index : Index) (templates : List LessonTemplate) (id : String) :
    (templates.foldl enter index).byId.get? id
      = (templates.reverse.find? (·.id == id)).or (index.byId.get? id) := by
  induction templates generalizing index with
  | nil => rfl
  | cons template rest ih =>
    rw [List.foldl_cons, ih, get?_enter, List.reverse_cons, List.find?_append, Option.or_assoc]
    -- a template of the same id takes the place of an earlier one
    by_cases hid : id = template.id
    · simp [hid]
    · simp [hid, Ne.symm hid]

end Index

/-! ### The whole shelf -/

variable {shelf : Shelf} {template : LessonTemplate} {kind : LessonKind} {level : Level}
  {id : String}

/-- **The candidates** for a kind and level are the templates of that kind that cover the level, in
    the order in which they were loaded. -/
theorem candidates_eq (shelf : Shelf) (kind : LessonKind) (level : Level) :
    shelf.candidates kind level
      = shelf.records.filter fun template => template.kind = kind ∧ template.covers level := by
  have hnothing : ({} : Index).templatesFor kind level = [] := rfl
  rw [candidates, index, Index.templatesFor_foldl, hnothing, List.nil_append]

theorem mem_candidates_iff :
    template ∈ shelf.candidates kind level ↔
      template ∈ shelf.records ∧ template.kind = kind ∧ template.covers level = true := by
  simp [candidates_eq]

/-- The last template of an id is found. -/
theorem byId?_eq (shelf : Shelf) (id : String) :
    shelf.byId? id = shelf.records.reverse.find? (·.id == id) := by
  rw [byId?, index, Index.get?_foldl]
  exact Option.or_none

theorem byId?_eq_none_iff :
    shelf.byId? id = none ↔ ∀ template ∈ shelf.records, template.id ≠ id := by
  simp [byId?_eq]

/-- What is found under an id is one of the templates and has that id. -/
theorem mem_records_of_byId? (h : shelf.byId? id = some template) :
    template ∈ shelf.records ∧ template.id = id := by
  rw [byId?_eq] at h
  exact ⟨List.mem_reverse.mp (List.mem_of_find?_eq_some h), by simpa using List.find?_some h⟩

end Shelf

end BilingualLessons
