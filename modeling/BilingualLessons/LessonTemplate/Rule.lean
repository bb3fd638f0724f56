import BilingualLessons.LessonTemplate.Basic
import BilingualLessons.Template.Block

namespace BilingualLessons

/-!
# Rules for lesson templates

* `TemplateRule` — a rule that a template can break.
* `LessonTemplate.brokenRules` — the rules that a template breaks, in the order of a message.
-/

/-- A rule that a template can break. -/
inductive TemplateRule where
  | idRequired
  | nameRequired
  | descriptionRequired
  | rangeAscending (lowest highest : Level)
  | bodyRequired
  | bodyParses (fault : Template.Fault)
  | variableNameRequired
  | variableDeclaredOnce (name : String)
  | defaultOfKind (name : String) (kind : VariableKind)
  | uniqueId
  /-- The rule of a renderer, which looks at the body alone. -/
  | bodyNotBlank
deriving DecidableEq, Repr

/-- The words for a broken rule. -/
def TemplateRule.message : TemplateRule → String
  | .idRequired => "id is required"
  | .nameRequired => "name is required"
  | .descriptionRequired => "description is required"
  | .rangeAscending lowest highest =>
    s!"difficultyRange must be ascending, got [{lowest.name}, {highest.name}]"
  | .bodyRequired => "template body is required"
  | .bodyParses fault => s!"template body does not parse: {fault.message}"
  | .variableNameRequired => "variable name is required"
  | .variableDeclaredOnce name => s!"variable '{name}' is declared twice"
  | .defaultOfKind name kind => s!"defaultValue of '{name}' must be {kind.name}"
  | .uniqueId => "duplicate template id"
  | .bodyNotBlank => "template body is required and must be a non-empty string"

/-- The rule, where it is broken. -/
def brokenIf (broken : Bool) (rule : α) : List α :=
  if broken then [rule] else []

/-- The rule that the default of a variable breaks. Null is no default. -/
def Variable.brokenDefault (var : Variable) : List TemplateRule :=
  match var.default?.bind Json.nonNull with
  | none => []
  | some v => brokenIf (!var.kind.accepts v) (.defaultOfKind var.name var.kind)

/-- The rules that variables break, `seen` being the names declared before them. A variable without
    a name is not looked at further. -/
def brokenByVariables (seen : List String) : List Variable → List TemplateRule
  | [] => []
  | var :: rest =>
    if Text.isBlankText var.name then .variableNameRequired :: brokenByVariables seen rest
    else
      brokenIf (seen.contains var.name) (.variableDeclaredOnce var.name) ++
        var.brokenDefault ++ brokenByVariables (var.name :: seen) rest

/-- The rule that a body breaks under a nesting limit. -/
def brokenByBody (limit : Nat) (body : String) : List TemplateRule :=
  if Text.isBlankText body then [.bodyRequired]
  else
    match Template.parse limit body with
    | .ok _ => []
    | .error fault => [.bodyParses fault]

namespace LessonTemplate

/-- The rules that a template breaks, with blocks inside one another up to `limit` deep. -/
def brokenRules (limit : Nat) (template : LessonTemplate) : List TemplateRule :=
  brokenIf (Text.isBlankText template.id) .idRequired ++
  brokenIf (Text.isBlankText template.name) .nameRequired ++
  brokenIf (Text.isBlankText template.description) .descriptionRequired ++
  brokenIf (!decide (template.lowest ≤ template.highest))
    (.rangeAscending template.lowest template.highest) ++
  brokenByBody limit template.body ++
  brokenByVariables [] template.declared

end LessonTemplate

end BilingualLessons
