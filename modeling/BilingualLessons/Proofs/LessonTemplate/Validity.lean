import BilingualLessons.Proofs.LessonTemplate.Fallback
import Mathlib.Data.List.Nodup

namespace BilingualLessons

/-!
# Well-formed templates

The rules of a template are checked one after the other, those of its variables with the names
seen so far at hand, and all that are broken are reported together.  What is asked for in the end
can be said without an order.

* `Variable.IsWellFormed`, `LessonTemplate.IsWellFormed` — what the rules ask for.
* `brokenByVariables_eq_nil_iff` — what the walk through the variables asks for, behind names that
  have been seen.
* `validation_accepts_the_well_formed` — a template passes all checks exactly if it is well-formed,
  and then it passes the check of its body alone.
-/

open Template

/-! ### What the rules ask for -/

/-- A variable has a name, and a default that is not null is a value of its type. -/
structure Variable.IsWellFormed (var : Variable) : Prop where
  name : Text.isBlankText var.name = false
  default : ∀ v, var.default? = some v → v ≠ .null → var.kind.accepts v = true

/-- A template with texts that are not blank, a range of levels that is not empty, a body that
    parses, and well-formed variables with names of their own. -/
structure LessonTemplate.IsWellFormed (limit : Nat) (template : LessonTemplate) : Prop where
  id : Text.isBlankText template.id = false
  name : Text.isBlankText template.name = false
  description : Text.isBlankText template.description = false
  range : template.lowest ≤ template.highest
  body : Text.isBlankText template.body = false
  parses : ∃ nodes, parse limit template.body = .ok nodes
  declared : ∀ var ∈ template.declared, var.IsWellFormed
  names : (template.declared.map (·.name)).Nodup

/-! ### One rule after the other -/

theorem brokenIf_eq_nil_iff {α : Type} {broken : Bool} {rule : α} :
    brokenIf broken rule = [] ↔ broken = false := by
  cases broken <;> simp [brokenIf]

/-- No rule on a default is broken if it is null or of the type of its variable. -/
theorem Variable.brokenDefault_eq_nil_iff {var : Variable} :
    var.brokenDefault = [] ↔
      ∀ v, var.default? = some v → v ≠ .null → var.kind.accepts v = true := by
  unfold brokenDefault
  cases hdefault : var.default? with
  | none => simp
  | some v =>
    cases v <;> simp [Json.nonNull, Json.isNull, brokenIf_eq_nil_iff]

/-- No rule on a body is broken if it is not blank and parses. -/
theorem brokenByBody_eq_nil_iff {limit : Nat} {body : String} :
    brokenByBody limit body = [] ↔
      Text.isBlankText body = false ∧ ∃ nodes, parse limit body = .ok nodes := by
  unfold brokenByBody
  cases hblank : Text.isBlankText body with
  | true => simp
  | false => cases hparse : parse limit body <;> simp

/-- **The variables.** Behind the names `seen` no rule is broken if every variable is well-formed
    and all have names of their own, which have not been seen either. -/
theorem brokenByVariables_eq_nil_iff (seen : List String) (vars : List Variable) :
    brokenByVariables seen vars = [] ↔
      (∀ var ∈ vars, var.IsWellFormed) ∧ (vars.map (·.name)).Nodup ∧
        ∀ var ∈ vars, var.name ∉ seen := by
  -- for all names that have been seen: each variable adds its own
  induction vars generalizing seen with
  | nil => simp [brokenByVariables]
  | cons var rest ih =>
    rw [brokenByVariables]
    cases hblank : Text.isBlankText var.name with
    | true =>
      -- the name is missed at once, and the variable cannot be well-formed
      have hmalformed : ¬ var.IsWellFormed := fun h => by simpa [hblank] using h.name
      simp [hmalformed]
    | false =>
      have hdefault : var.IsWellFormed ↔ var.brokenDefault = [] :=
        ⟨fun h => Variable.brokenDefault_eq_nil_iff.mpr h.default,
          fun h => ⟨hblank, Variable.brokenDefault_eq_nil_iff.mp h⟩⟩
      have hnew : var.name ∉ seen ∧ (∀ other ∈ rest, other.name ∉ var.name :: seen) ↔
          var.name ∉ rest.map (·.name) ∧ ∀ other ∈ var :: rest, other.name ∉ seen := by
        simp only [List.mem_cons, List.mem_map, not_or, not_exists, not_and, forall_eq_or_imp]
        exact ⟨fun ⟨hseen, hrest⟩ => ⟨fun other h => (hrest other h).1, hseen,
            fun other h => (hrest other h).2⟩,
          fun ⟨hfresh, hseen, hrest⟩ => ⟨hseen, fun other h => ⟨hfresh other h, hrest other h⟩⟩⟩
      have hfirst : (∀ other ∈ var :: rest, other.IsWellFormed) ↔
          var.brokenDefault = [] ∧ ∀ other ∈ rest, other.IsWellFormed := by
        rw [List.forall_mem_cons, hdefault]
      rw [if_neg (by simp), List.append_eq_nil_iff, List.append_eq_nil_iff, brokenIf_eq_nil_iff, ih,
        hfirst, List.map_cons, List.nodup_cons, List.contains_eq_mem, decide_eq_false_iff_not]
      tauto

namespace LessonTemplate

/-- A template breaks no rule exactly if it is well-formed. -/
theorem brokenRules_eq_nil_iff {limit : Nat} {template : LessonTemplate} :
    template.brokenRules limit = [] ↔ template.IsWellFormed limit := by
  simp only [brokenRules, List.append_eq_nil_iff, brokenIf_eq_nil_iff, brokenByBody_eq_nil_iff,
    brokenByVariables_eq_nil_iff, Bool.not_eq_false', decide_eq_true_eq]
  constructor
  · rintro ⟨⟨⟨⟨⟨hid, hname⟩, hdescription⟩, hrange⟩, hbody, hparses⟩, hvars, hnames, -⟩
    exact ⟨hid, hname, hdescription, hrange, hbody, hparses, hvars, hnames⟩
  · rintro ⟨hid, hname, hdescription, hrange, hbody, hparses, hvars, hnames⟩
    exact ⟨⟨⟨⟨⟨hid, hname⟩, hdescription⟩, hrange⟩, hbody, hparses⟩, hvars, hnames, by simp⟩

/-- The check of the body alone asks for less. -/
theorem IsWellFormed.checkBody {limit : Nat} {template : LessonTemplate}
    (h : template.IsWellFormed limit) : template.checkBody limit = .ok () := by
  obtain ⟨nodes, hparse⟩ := h.parses
  simp [LessonTemplate.checkBody, h.body, hparse]

/-- **Validation.** A template passes all checks under a nesting limit exactly if it is
    well-formed, and what passes them passes the check of the body under the same limit. -/
theorem validation_accepts_the_well_formed (limit : Nat) (template : LessonTemplate) :
    (template.validate limit = .ok () ↔ template.IsWellFormed limit) ∧
      (template.validate limit = .ok () → template.checkBody limit = .ok ()) := by
  have haccepts : template.validate limit = .ok () ↔ template.IsWellFormed limit :=
    validate_eq_ok_iff.trans brokenRules_eq_nil_iff
  exact ⟨haccepts, fun hvalid => (haccepts.mp hvalid).checkBody⟩

end LessonTemplate

end BilingualLessons
