import BilingualLessons.Lesson.Section
import BilingualLessons.LessonKind
import BilingualLessons.LessonTemplate.Contract
import BilingualLessons.Level
import BilingualLessons.Loading.Report

namespace BilingualLessons.Lesson

/-!
# Why there is no lesson

* `Fault` — what a request for a lesson can end in.
* `PlanFault` — what a way of putting a lesson together can end in.
-/

/-- What a request for a lesson can end in. -/
inductive Fault where
  | noTemplate (kind : LessonKind) (level : Level)
  | sourceUnavailable (fault : Loading.Unavailable)
  /-- The vocabulary could not answer. -/
  | vocabulary (reason : String)
  | noSections (kind : LessonKind) (skipped : List SkippedSection)
  /-- A section that the lesson cannot do without did not render. -/
  | failed (cause : RenderFault)
deriving DecidableEq, Repr

/-- The words for a fault. -/
def Fault.message : Fault → String
  | .noTemplate kind level =>
    s!"No template found for type {kind.name} and difficulty {level.name}"
  | .sourceUnavailable fault => fault.message
  | .vocabulary reason => s!"vocabulary provider error: {reason}"
  | .noSections kind skipped =>
    s!"no sections could be generated for {kind.name} lesson (" ++
      "; ".intercalate (skipped.map SkippedSection.message) ++ ")"
  | .failed cause => s!"Failed to generate lesson: {cause.message}"

/-- What a way of putting a lesson together can end in. -/
inductive PlanFault where
  | rendering (fault : RenderFault)
  | lesson (fault : Fault)
deriving DecidableEq, Repr

namespace PlanFault

/-- The words for a fault. -/
def message : PlanFault → String
  | .rendering fault => fault.message
  | .lesson fault => fault.message

/-- The fault of the request. -/
def toFault : PlanFault → Fault
  | .rendering fault => .failed fault
  | .lesson fault => fault

end PlanFault

end BilingualLessons.Lesson
