import BilingualLessons.Lesson.Contextual
import BilingualLessons.Lesson.Grammatical
import BilingualLessons.Lesson.Thematic

namespace BilingualLessons.Lesson

/-!
# From a request to a lesson

* `Strategy` — the ways of putting a lesson together.
* `Strategy.ofKind` — which way a kind of lesson goes.
* `Planner.plan` — a lesson by a given way.
* `Planner.lesson` — a lesson by the way of its kind.
-/

/-- The ways of putting a lesson together. -/
inductive Strategy where
  | thematic
  | grammar
  | contextual
  /-- Fitted to the learner, which thematic lessons are as far as they can be. -/
  | adaptive
deriving DecidableEq, Repr

/-- Which way a kind of lesson goes. -/
def Strategy.ofKind : LessonKind → Strategy
  | .vocabulary => .thematic
  | .grammar => .grammar
  | .mixed | .contextual | .cultural => .contextual

namespace Planner

/-- A lesson by a given way. -/
def plan (planner : Planner σ) (strategy : Strategy) (request : Request) (options : Options) :
    Planning σ Lesson :=
  match strategy with
  | .thematic | .adaptive => planner.thematicLesson request options
  | .grammar => planner.grammarLesson request
  | .contextual => planner.contextualLesson request options

/-- The lesson that a request asks for. -/
def lesson (planner : Planner σ) (request : Request) (options : Options) :
    StateM σ (Except Fault Lesson) := do
  let result ← (planner.plan (.ofKind request.kind) request options).run
  return result.mapError PlanFault.toFault

end Planner

end BilingualLessons.Lesson
