import BilingualLessons.Grammar.Catalogue
import BilingualLessons.Lesson.Basic
import BilingualLessons.Lesson.Fault
import BilingualLessons.Lesson.Request
import BilingualLessons.LessonTemplate.Shelf
import BilingualLessons.Settings.Basic
import BilingualLessons.Vocabulary.Notes
import BilingualLessons.Vocabulary.Provider

namespace BilingualLessons.Lesson

/-!
# Planning a lesson

What every way of putting a lesson together has in common.

* `Planner` — what lessons are put together from.
* `Planning` — a step that can fail and that can change the state of the vocabulary.
* `Planner.template` — the template of an id, or else some template for the lesson.
* `Attempt`, `attemptAll` — sections that may fail without failing the lesson.
* `Outcome` — the sections that came about and those that did not.
* `Draft`, `Draft.lesson` — the lesson that comes of a request.
-/

/-- What lessons are put together from. -/
structure Planner (σ : Type) where
  shelf : Shelf
  catalogue : Grammar.Catalogue
  provider : Vocabulary.Provider σ
  /-- The position of a template among as many as told. -/
  pick : Nat → StateM σ Nat
  /-- How deep blocks of a template may be nested. -/
  nesting : Nat := Template.defaultNesting
  settings : GenerationSettings := {}

/-- A step that can fail and that can change the state of the vocabulary. -/
abbrev Planning (σ α : Type) := ExceptT PlanFault (StateM σ) α

/-- A question to the vocabulary as a step. -/
def ask (answer : StateM σ (Except String α)) : Planning σ α := do
  match ← (answer : StateM σ _) with
  | .ok a => return a
  | .error reason => throw (.lesson (.vocabulary reason))

/-- A number that counts only if it is larger than zero. -/
def positive? (n : Option Nat) : Option Nat := n.filter (0 < ·)

namespace Planner

/-! ### Templates -/

/-- One of the templates for lessons of a kind and level. -/
def anyTemplate (planner : Planner σ) (kind : LessonKind) (level : Level) :
    Planning σ LessonTemplate :=
  match planner.shelf.candidates kind level with
  | [] => throw (.lesson (.noTemplate kind level))
  | first :: others => do
    let position ← (planner.pick (others.length + 1) : StateM σ Nat)
    return (first :: others)[position]?.getD first

/-- The template of an id, or else one of those for lessons of a kind at the requested level. -/
def template (planner : Planner σ) (id : String) (kind : LessonKind) (request : Request) :
    Planning σ LessonTemplate :=
  match planner.shelf.byId? id with
  | some template => return template
  | none => planner.anyTemplate kind request.level

/-- The text of a template in a context. -/
def render (planner : Planner σ) (template : LessonTemplate) (context : Template.Context) :
    Planning σ String :=
  match template.render planner.nesting context with
  | .ok text => return text
  | .error fault => throw (.rendering fault)

/-- A section of a template, which its metadata name. -/
def renderSection (planner : Planner σ) (template : LessonTemplate) (context : Template.Context)
    (title : String) (kind : SectionKind) : Planning σ Section := do
  let content ← planner.render template context
  return { title, content, kind, metadata := [("templateId", .string template.id)] }

end Planner

/-- What every section knows: its title and the direction of the lesson. -/
def Request.sectionContext (request : Request) (title : String) : Template.Context :=
  (Template.Context.ofList request.direction.entries).set "sectionTitle" (.string title)

/-- Words as sections show them. -/
def annotatedWords (items : List Vocabulary.Item) : Json :=
  .array (items.map Vocabulary.Item.annotated)

/-! ### Attempts -/

/-- A section that may fail without failing the lesson. -/
structure Attempt (σ : Type) where
  name : String
  make : Planning σ Section

/-- The sections that came about and those that did not. -/
structure Outcome where
  sections : List Section := []
  skipped : List SkippedSection := []
deriving DecidableEq, Repr

/-- Puts the result of an attempt in front. -/
def Outcome.add (name : String) (result : Except PlanFault Section) (outcome : Outcome) : Outcome :=
  match result with
  | .ok part => { outcome with sections := part :: outcome.sections }
  | .error fault => { outcome with skipped := ⟨name, fault.message⟩ :: outcome.skipped }

/-- Makes every attempt, in order. -/
def attemptAll : List (Attempt σ) → StateM σ Outcome
  | [] => return {}
  | attempt :: rest => do
    let result ← attempt.make.run
    let outcome ← attemptAll rest
    return outcome.add attempt.name result

/-- The outcome of attempts, of which one at least has to succeed. -/
def requireSection (kind : LessonKind) (attempts : List (Attempt σ)) : Planning σ Outcome := do
  let outcome ← (attemptAll attempts : StateM σ Outcome)
  if outcome.sections.isEmpty then throw (.lesson (.noSections kind outcome.skipped))
  return outcome

/-! ### Drafts -/

/-- What a way of putting a lesson together decides. -/
structure Draft where
  title : String
  outcome : Outcome
  vocabulary : List Vocabulary.Item
  concepts : List Grammar.Concept := []
  objectives : List String

/-- The metadata of a lesson: those of the request, and its user unless they name one. -/
def Request.lessonMetadata (request : Request) : Fields :=
  match request.userId with
  | none => request.metadata
  | some user =>
    if request.metadata.contains "userId" then request.metadata
    else request.metadata.insert "userId" (.string user)

/-- The lesson that comes of a request. -/
def Draft.lesson (draft : Draft) (request : Request) : Lesson where
  kind := request.kind
  level := request.level
  title := draft.title
  sections := draft.outcome.sections
  vocabulary := draft.vocabulary
  concepts := draft.concepts
  objectives := draft.objectives
  skipped := draft.outcome.skipped
  metadata := request.lessonMetadata

end BilingualLessons.Lesson
