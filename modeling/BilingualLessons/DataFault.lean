import BilingualLessons.Grammar.Concept
import BilingualLessons.LessonTemplate.Rule

namespace BilingualLessons

/-!
# Faults of records and of the values for a template

* `DataFault` — why a record or a context is refused.
-/

/-- Why a record or a context is refused. -/
inductive DataFault where
  | invalidTemplate (id : String) (broken : List TemplateRule)
  | invalidConcept (id : String) (broken : List Grammar.ConceptRule)
  | malformedRecord (origin : String) (misfit : Record.Misfit)
  | missingVariable (template name : String)
  | typeMismatch (template name : String) (expected : VariableKind) (actual : Json.Kind)
deriving DecidableEq, Repr

/-- The words for a fault. -/
def DataFault.message : DataFault → String
  | .invalidTemplate id broken =>
    s!"invalid template '{id}': " ++ "; ".intercalate (broken.map TemplateRule.message)
  | .invalidConcept id broken =>
    s!"invalid grammar concept '{id}': " ++
      "; ".intercalate (broken.map Grammar.ConceptRule.message)
  | .malformedRecord origin misfit => s!"malformed record in {origin}: {misfit.message}"
  | .missingVariable template name =>
    s!"missing required variable '{name}' for template '{template}'"
  | .typeMismatch template name expected actual =>
    s!"variable '{name}' for template '{template}' must be {expected.name}, got {actual.name}"

end BilingualLessons
