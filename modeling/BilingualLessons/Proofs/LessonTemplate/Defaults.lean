import BilingualLessons.LessonTemplate.Contract
import BilingualLessons.Proofs.Outcome
import BilingualLessons.Proofs.Template.Agreement
import Mathlib.Data.List.Basic

namespace BilingualLessons

/-!
# Defaults of declared variables

Rendering a lesson template looks its paths up in the context and then in the defaults.  The same
text comes from the body and one context, which has the defaults among its values.

* `LessonTemplate.completed` — the context with the defaults of the variables that it has no key
  for.  This is what a template renders with, always.
* `LessonTemplate.withDefaults` — the context with the defaults of the variables that it has no
  value for.  The two differ where the context holds `null` under a variable with a default: the
  `null` hides the default (`null_hides_a_default`).
* `defaults_act_as_values` — rendering is rendering the body in the first of these contexts, and
  in the second where no `null` stands in the way.
-/

namespace LessonTemplate

/-- The defaults of the declared variables that have one, in the order of their declaration. -/
def declaredDefaults (template : LessonTemplate) : Fields :=
  template.declared.filterMap fun var => var.default?.map fun value => (var.name, value)

/-- A context with the defaults of the variables that it has no key for, not even with `null`. -/
def completed (template : LessonTemplate) (context : Template.Context) : Template.Context :=
  context.extend (template.declaredDefaults.filter fun field =>
    !Fields.contains field.1 context.values)

/-- A context with the defaults, if they are not `null`, of the variables that it has no value
    for. -/
def withDefaults (template : LessonTemplate) (context : Template.Context) : Template.Context :=
  context.extend (template.declaredDefaults.filter fun field =>
    !context.contains field.1 && !field.2.isNull)

/-- The defaults that rendering uses are chosen from all of them by the keys of the context. -/
theorem defaults_eq (template : LessonTemplate) (context : Template.Context) :
    template.defaults context
      = Fields.ofList
          (template.declaredDefaults.filter fun field => !context.contains field.1) := by
  rw [defaults, declaredDefaults, List.filterMap_filter, List.filter_filterMap]
  -- both choose among the declarations, before or after the values are taken out
  congr 1
  refine List.filterMap_congr fun var _ => ?_
  cases var.default? with
  | none => simp
  | some value => cases hname : context.contains var.name <;> simp [Option.filter, hname]

/-- A key without a raw entry has no value. -/
theorem contains_eq_false_of_get? {context : Template.Context} {key : String}
    (h : Fields.get? key context.values = none) : context.contains key = false := by
  simp [Template.Context.contains, Template.Context.get?, h]

/-- The context before the defaults binds what the completed context does. -/
theorem lookup_completed (template : LessonTemplate) (context : Template.Context) (key : String) :
    Template.Scope.lookup [.values context.values, .values (template.defaults context)] key
      = Template.Scope.lookup [.values (template.completed context).values] key := by
  simp only [Template.lookup_cons, Template.Frame.get?, defaults_eq, Fields.ofList, completed,
    Template.Context.extend, Fields.get?_insertAll, ← List.filter_reverse, Fields.get?_nil,
    Option.or_none]
  rw [Fields.get?_filter_key (fun k => !context.contains k),
    Fields.get?_filter_key (fun k => !Fields.contains k context.values)]
  -- a key of the context hides the defaults on both sides, whatever stands under it
  cases hkey : Fields.get? key context.values with
  | none => simp [Fields.contains, hkey, contains_eq_false_of_get? hkey, Template.Scope.lookup]
  | some v => simp [Fields.contains, hkey, Template.Scope.lookup]

/-- A checked context renders as the completed one does without declarations. -/
theorem render_eq_completed (limit : Nat) {template : LessonTemplate} {context : Template.Context}
    (hdata : template.checkContext context = .ok ()) :
    template.render limit context
      = (Template.renderBody limit template.body (template.completed context)).mapError
          .template := by
  unfold render Template.renderBody
  rw [hdata]
  cases Template.parse limit template.body with
  | error fault => rfl
  | ok nodes =>
    have hnodes := Template.renderNodes_congr nodes
      (fun _ _ key _ => lookup_completed template context key)
    exact congrArg (Except.mapError RenderFault.template) hnodes

/-- Without `null` among the defaults, or in the context in their places, a variable has no key
    where it has no value. -/
theorem completed_eq_withDefaults {template : LessonTemplate} {context : Template.Context}
    (h : ∀ field ∈ template.declaredDefaults,
      field.2 ≠ .null ∧ Fields.get? field.1 context.values ≠ some .null) :
    template.completed context = template.withDefaults context := by
  unfold completed withDefaults
  congr 1
  refine List.filter_congr fun field hfield => ?_
  obtain ⟨hdefault, hcontext⟩ := h field hfield
  have hnull : field.2.isNull = false := by
    cases hvalue : field.2 <;> simp_all [Json.isNull]
  -- without `null` a key has a value exactly if it is there
  cases hkey : Fields.get? field.1 context.values with
  | none => simp [Fields.contains, hkey, contains_eq_false_of_get? hkey, hnull]
  | some v =>
    have hv : v.nonNull = some v := by
      cases v <;> simp_all [Json.nonNull, Json.isNull]
    simp [Fields.contains, Template.Context.contains, Template.Context.get?, hkey, hv]

/-- **Defaults act as values.** A checked context renders as the body does, without declarations,
    in the context that has the default of every variable it has no key for. If no default is
    `null`, and no variable with a default is `null` in the context, this is the context that has
    the default of every variable it has no value for. -/
theorem defaults_act_as_values (limit : Nat) (template : LessonTemplate)
    (context : Template.Context) (hdata : template.checkContext context = .ok ()) :
    template.render limit context
      = (Template.renderBody limit template.body (template.completed context)).mapError
          .template ∧
    ((∀ field ∈ template.declaredDefaults,
        field.2 ≠ .null ∧ Fields.get? field.1 context.values ≠ some .null) →
      template.render limit context
        = (Template.renderBody limit template.body (template.withDefaults context)).mapError
            .template) := by
  have hcompleted := render_eq_completed limit hdata
  refine ⟨hcompleted, fun h => ?_⟩
  rw [hcompleted, completed_eq_withDefaults h]

/-- A greeting, which has a default, and a name. -/
def greeting : LessonTemplate where
  id := "greeting"
  name := "Greeting"
  description := "A greeting by name"
  kind := .vocabulary
  lowest := .a1
  highest := .c1
  body := Template.tagText "greeting" ++ ", " ++ Template.tagText "name"
  declared := [
    { name := "greeting", kind := .string, required := false, default? := some (.string "Hallo") },
    { name := "name", kind := .string, required := true }]

/-- Without a greeting in the context the default is rendered. -/
theorem defaults_act_as_values_in_a_greeting :
    greeting.checkContext ⟨[("name", .string "Ana")]⟩ = .ok () ∧
    (∀ field ∈ greeting.declaredDefaults, field.2 ≠ .null ∧
      Fields.get? field.1 [("name", Json.string "Ana")] ≠ some .null) ∧
    greeting.withDefaults ⟨[("name", .string "Ana")]⟩
      = ⟨[("greeting", .string "Hallo"), ("name", .string "Ana")]⟩ ∧
    greeting.render 0 ⟨[("name", .string "Ana")]⟩ = .ok "Hallo, Ana" := by
  have hdata : greeting.checkContext ⟨[("name", .string "Ana")]⟩ = .ok () := by decide +kernel
  have hnull : ∀ field ∈ greeting.declaredDefaults, field.2 ≠ .null ∧
      Fields.get? field.1 [("name", Json.string "Ana")] ≠ some .null := by decide +kernel
  have hcontext : greeting.withDefaults ⟨[("name", .string "Ana")]⟩
      = ⟨[("greeting", .string "Hallo"), ("name", .string "Ana")]⟩ := by decide +kernel
  refine ⟨hdata, hnull, hcontext, ?_⟩
  rw [(defaults_act_as_values 0 greeting ⟨[("name", .string "Ana")]⟩ hdata).2 hnull, hcontext]
  decide +kernel

/-- **A null hides a default.** A valid template and a context that the check accepts, with `null`
    under a variable that has a default: the variable has no value, and the default does not take
    its place. -/
theorem null_hides_a_default :
    let context : Template.Context := ⟨[("greeting", .null), ("name", .string "Ana")]⟩
    greeting.validate 0 = .ok () ∧ greeting.checkContext context = .ok () ∧
    context.contains "greeting" = false ∧
    greeting.withDefaults context
      = ⟨[("greeting", .string "Hallo"), ("name", .string "Ana")]⟩ ∧
    Template.renderBody 0 greeting.body (greeting.withDefaults context) = .ok "Hallo, Ana" ∧
    greeting.render 0 context = .error (.template (.undefinedVariable "greeting" 1)) := by
  decide +kernel

end LessonTemplate

end BilingualLessons
