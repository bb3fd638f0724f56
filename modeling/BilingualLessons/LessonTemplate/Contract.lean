import BilingualLessons.DataFault
import BilingualLessons.Template.Render

namespace BilingualLessons

/-!
# Rendering a lesson template

A template declares variables; a context must supply the required ones and may not contradict the
declared types.  Defaults fill in what the context leaves out.

* `LessonTemplate.checkContext` — the first variable that a context gets wrong.
* `LessonTemplate.defaults` — the defaults that a context leaves room for.
* `RenderFault` — why a template does not render in a context.
* `LessonTemplate.render` — the text of a template.
-/

/-- Why a template does not render in a context. -/
inductive RenderFault where
  | data (fault : DataFault)
  | template (fault : Template.Fault)
deriving DecidableEq, Repr

/-- The words for a fault. -/
def RenderFault.message : RenderFault → String
  | .data fault => fault.message
  | .template fault => fault.message

/-- What is wrong with the value of a variable in a context. -/
def Variable.check (template : String) (context : Template.Context) (var : Variable) :
    Except DataFault Unit :=
  match context.get? var.name with
  | none => if var.required then .error (.missingVariable template var.name) else .ok ()
  | some v =>
    if var.kind.accepts v then .ok ()
    else .error (.typeMismatch template var.name var.kind v.kind)

namespace LessonTemplate

/-- Checks a context against the declared variables, in the order of their declaration. -/
def checkContext (template : LessonTemplate) (context : Template.Context) : Except DataFault Unit :=
  template.declared.forM (Variable.check template.id context)

/-- The defaults of the variables that a context has no value for. -/
def defaults (template : LessonTemplate) (context : Template.Context) : Fields :=
  Fields.ofList <| (template.declared.filter fun v => !context.contains v.name).filterMap
    fun v => v.default?.map fun value => (v.name, value)

/-- The text of a template in a context: the context is checked first, then the body is parsed, and
    its paths are looked up in the context before the defaults. -/
def render (limit : Nat) (template : LessonTemplate) (context : Template.Context) :
    Except RenderFault String := do
  (template.checkContext context).mapError .data
  let nodes ← (Template.parse limit template.body).mapError .template
  let scope := [.values context.values, .values (template.defaults context)]
  (Template.renderNodes scope nodes).mapError .template

/-- Checks the body alone: it is not blank and it parses. -/
def checkBody (limit : Nat) (template : LessonTemplate) : Except RenderFault Unit :=
  if Text.isBlankText template.body then
    .error (.data (.invalidTemplate template.id [.bodyNotBlank]))
  else
    match Template.parse limit template.body with
    | .ok _ => .ok ()
    | .error fault => .error (.template fault)

/-- Checks a template against all of its rules. -/
def validate (limit : Nat) (template : LessonTemplate) : Except DataFault Unit :=
  match template.brokenRules limit with
  | [] => .ok ()
  | broken => .error (.invalidTemplate template.id broken)

end LessonTemplate

/-- Checks a concept against all of its rules. -/
def Grammar.Concept.validate (concept : Grammar.Concept) : Except DataFault Unit :=
  match concept.brokenRules with
  | [] => .ok ()
  | broken => .error (.invalidConcept concept.id broken)

end BilingualLessons
