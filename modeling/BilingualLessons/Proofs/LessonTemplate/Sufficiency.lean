import BilingualLessons.LessonTemplate.Contract
import BilingualLessons.Proofs.Template.BlockSource
import BilingualLessons.Proofs.Template.ScopeParts
import BilingualLessons.Proofs.Template.Success

namespace BilingualLessons

/-!
# Contexts that are enough

The check of a context goes by the exact names of the declared variables.  Rendering goes by paths:
it takes a path for a name first, and what a loop binds before what the context does.  The two fit
together in a template that keeps to its own declarations.

* `LessonTemplate.Requires` — a variable that a template declares and cannot do without.
* `LessonTemplate.KeepsContract` — a body that substitutes required scalars, loops over required
  arrays, and in its loops only counts; its conditions are free.
* `resolve_of_requires` — in a checked context a required name is the path of its value.
* `checked_contexts_render` — every context that is accepted renders.
-/

namespace LessonTemplate

open Template

/-- The template declares a variable of this name, as required and of one of these types. -/
def Requires (template : LessonTemplate) (kinds : List VariableKind) (name : String) : Prop :=
  ∃ var ∈ template.declared, var.name = name ∧ var.required = true ∧ var.kind ∈ kinds

instance (template : LessonTemplate) (kinds : List VariableKind) (name : String) :
    Decidable (template.Requires kinds name) := by
  unfold Requires
  infer_instance

/-- The types of the values that a substitution can write. -/
def scalarKinds : List VariableKind := [.string, .number, .boolean]

/-- The names by which a loop counts its turns. -/
def counters : List String := ["@index", "@first", "@last"]

/-- The nodes of the body keep to what the template declares. Conditions may test any path. -/
structure KeepsContract (template : LessonTemplate) (nodes : List Node) : Prop where
  /-- What is substituted outside loops is a required scalar. -/
  substitutions : ∀ path ∈ substitutionsOf nodes, template.Requires scalarKinds path
  /-- What is looped over is a required array. -/
  loops : ∀ loop ∈ loopsOf nodes, template.Requires [.array] loop.1
  /-- There is no loop in a loop. -/
  noInnerLoops : ∀ loop ∈ loopsOf nodes, loopsOf loop.2 = []
  /-- All that is substituted in a loop is its counters. -/
  innerSubstitutions : ∀ loop ∈ loopsOf nodes, ∀ path ∈ substitutionsOf loop.2, path ∈ counters

/-! ### The values of required variables -/

/-- A context is accepted when every declared variable is. -/
theorem checkContext_eq_ok_iff {template : LessonTemplate} {context : Context} :
    template.checkContext context = .ok () ↔
      ∀ var ∈ template.declared, var.check template.id context = .ok () :=
  forM_eq_ok_iff

/-- A required variable that is accepted has a value of its type. -/
theorem exists_value_of_check {id : String} {context : Context} {var : Variable}
    (hcheck : var.check id context = .ok ()) (hrequired : var.required = true) :
    ∃ v, context.get? var.name = some v ∧ var.kind.accepts v = true := by
  unfold Variable.check at hcheck
  split at hcheck
  · simp [hrequired] at hcheck
  · next v hvalue =>
    split at hcheck
    · next haccepts => exact ⟨v, hvalue, haccepts⟩
    · cases hcheck

/-- The value of a context under a name is found by the name as a path, before anything that lies
    below the context, and even if the name has points in it. -/
theorem resolve_of_get? {context : Context} {name : String} {v : Json}
    (h : context.get? name = some v) (outer : Scope) :
    Scope.resolve (.values context.values :: outer) name = some v := by
  obtain ⟨w, hkey, hvalue⟩ := Option.bind_eq_some_iff.mp h
  -- the whole path is tried first, and the context is the innermost frame
  have hlookup : Scope.lookup (.values context.values :: outer) name = some w := by
    rw [lookup_cons, Frame.get?, hkey, Option.some_or]
  rw [Scope.resolve, hlookup]
  exact hvalue

/-- **Required names.** In a context that is accepted, the name of a required variable is a path
    to a value of its type. -/
theorem resolve_of_requires {template : LessonTemplate} {context : Context}
    (hcheck : template.checkContext context = .ok ()) {kinds : List VariableKind} {name : String}
    (h : template.Requires kinds name) (outer : Scope) :
    ∃ v, Scope.resolve (.values context.values :: outer) name = some v ∧
      ∃ kind ∈ kinds, kind.accepts v = true := by
  obtain ⟨var, hdeclared, rfl, hrequired, hkind⟩ := h
  have hvar := checkContext_eq_ok_iff.mp hcheck var hdeclared
  obtain ⟨v, hvalue, haccepts⟩ := exists_value_of_check hvar hrequired
  exact ⟨v, resolve_of_get? hvalue outer, var.kind, hkind, haccepts⟩

/-- A value of one of the scalar types can be written. -/
theorem exists_scalarText {kind : VariableKind} {v : Json} (hkind : kind ∈ scalarKinds)
    (haccepts : kind.accepts v = true) : ∃ text, scalarText v = some text := by
  cases kind <;> cases v <;>
    simp_all [scalarKinds, VariableKind.accepts, VariableKind.kind, Json.kind, scalarText]

/-- A value of the type of arrays is an array. -/
theorem exists_items {v : Json} (haccepts : VariableKind.array.accepts v = true) :
    ∃ items, v = .array items := by
  cases v <;> simp_all [VariableKind.accepts, VariableKind.kind, Json.kind]

/-- A counter has a scalar in every turn of a loop, whatever the element is. -/
theorem writes_counter {path : String} (hpath : path ∈ counters) (item : Json)
    (index length : Nat) (outer : Scope) :
    Scope.Writes (.iteration item index length :: outer) path := by
  simp only [counters, List.mem_cons, List.not_mem_nil, or_false] at hpath
  rcases hpath with rfl | rfl | rfl
  · exact ⟨.ofNat index, _, rfl, rfl⟩
  · exact ⟨.bool (index = 0), _, rfl, rfl⟩
  · exact ⟨.bool (index + 1 = length), _, rfl, rfl⟩

/-! ### Rendering -/

/-- The body of a loop that only counts renders in every turn. -/
theorem KeepsContract.render_turn {template : LessonTemplate} {nodes : List Node}
    (h : template.KeepsContract nodes) {loop : String × List Node} (hloop : loop ∈ loopsOf nodes)
    (item : Json) (index length : Nat) (outer : Scope) :
    ∃ text, renderNodes (.iteration item index length :: outer) loop.2 = .ok text := by
  refine renderNodes_succeeds loop.2 (fun path hpath => ?_) (fun inner hinner => ?_)
  · exact writes_counter (h.innerSubstitutions loop hloop path hpath) item index length outer
  · rw [h.noInnerLoops loop hloop] at hinner
    cases hinner

/-- **Contexts that are enough.** A template whose body parses and keeps to what the template
    declares renders in every context that its check accepts. -/
theorem checked_contexts_render {limit : Nat} {template : LessonTemplate} {nodes : List Node}
    (hparse : parse limit template.body = .ok nodes) (hkeeps : template.KeepsContract nodes)
    {context : Context} (hcheck : template.checkContext context = .ok ()) :
    ∃ text, template.render limit context = .ok text := by
  obtain ⟨text, htext⟩ : ∃ text, renderNodes
      [.values context.values, .values (template.defaults context)] nodes = .ok text := by
    refine renderNodes_succeeds nodes (fun path hpath => ?_) (fun loop hloop => ?_)
    -- what is declared as required is looked up in the context, and the defaults are not reached
    · obtain ⟨v, hvalue, kind, hkind, haccepts⟩ :=
        resolve_of_requires hcheck (hkeeps.substitutions path hpath) _
      obtain ⟨text, htext⟩ := exists_scalarText hkind haccepts
      exact ⟨v, text, hvalue, htext⟩
    · obtain ⟨v, hvalue, kind, hkind, haccepts⟩ :=
        resolve_of_requires hcheck (hkeeps.loops loop hloop) _
      obtain rfl : kind = .array := by simpa using hkind
      obtain ⟨items, rfl⟩ := exists_items haccepts
      exact ⟨items, hvalue, fun item index length =>
        hkeeps.render_turn hloop item index length _⟩
  refine ⟨text, ?_⟩
  rw [render, hcheck, hparse]
  simp only [mapError_ok, ok_bind, htext]

/-- A roll call: a dotted name, and a list whose elements are counted and never written. -/
def rollCall : LessonTemplate where
  id := "roll_call"
  name := "Roll call"
  description := "Counts words for a user"
  kind := .vocabulary
  lowest := .a1
  highest := .c1
  body := tagText "user.name" ++ ":" ++
    (openTag .each "words" ++ (tagText "@index" ++ (openTag .falsy "@last" ++ "," ++
      closeTag .falsy)) ++ closeTag .each) ++
    (openTag .truthy "user.age" ++ "!" ++ closeTag .truthy)
  declared := [
    { name := "user.name", kind := .string, required := true },
    { name := "words", kind := .array, required := true },
    { name := "words", kind := .array, required := false }]

/-- The nodes of the roll call. -/
def rollCallNodes : List Node :=
  [.substitution "user.name" 1, .text ":",
    .each "words" 1 [.substitution "@index" 1, .conditional true "@last" 1 [.text ","] []],
    .conditional false "user.age" 1 [.text "!"] []]

/-- The context has an object beside the dotted name, and elements of three kinds, one of which
    has a field with the name of a counter. -/
theorem checked_contexts_render_the_roll_call :
    let context : Context := ⟨[("user", .object [("age", .ofNat 7), ("name", .null)]),
      ("user.name", .string "Ana"),
      ("words", .array [.string "tak", .null, .object [("@index", .null)]])]⟩
    parse 2 rollCall.body = .ok rollCallNodes ∧ rollCall.KeepsContract rollCallNodes ∧
    rollCall.checkContext context = .ok () ∧
    (∃ text, rollCall.render 2 context = .ok text) ∧
    rollCall.render 2 context = .ok "Ana:0,1,2!" := by
  intro context
  have hparse : parse 2 rollCall.body = .ok rollCallNodes := by rfl
  have hkeeps : rollCall.KeepsContract rollCallNodes :=
    ⟨by decide, by decide, by decide, by decide⟩
  have hcheck : rollCall.checkContext context = .ok () := by decide +kernel
  exact ⟨hparse, hkeeps, hcheck, checked_contexts_render hparse hkeeps hcheck, by decide +kernel⟩

end LessonTemplate

end BilingualLessons
