import BilingualLessons.LessonTemplate.Contract
import BilingualLessons.Loading.Repository
import BilingualLessons.Table

namespace BilingualLessons

/-!
# The templates of a repository

* `LessonTemplate.fallback` — the built-in template.
* `LessonTemplate.ofRecord` — decodes and checks a record.
* `templateRepository` — a repository of templates with ids of their own.
* `Shelf.Index` — where a template is found: under its id, and under every use of it.
* `Shelf.candidates`, `Shelf.byId?` — which templates are for a lesson.
-/

namespace LessonTemplate

/-- The id of the built-in template. -/
def fallbackId : String := "fallback_template"

/-- The body of the built-in template. -/
def fallbackBody : String :=
  "# \x7b\x7bsectionTitle\x7d\x7d\n\nThis lesson contains \x7b\x7bcount\x7d\x7d " ++
    "vocabulary items.\n\n\x7b\x7b#each vocabulary\x7d\x7d\n" ++
    "- \x7b\x7bgerman\x7d\x7d / \x7b\x7bbulgarian\x7d\x7d\n\x7b\x7b/each\x7d\x7d"

/-- The built-in template: a list of words, for vocabulary lessons of every level. -/
def fallback : LessonTemplate where
  id := fallbackId
  name := "Fallback Template"
  description := "Fallback template used when no other templates are available"
  kind := .vocabulary
  lowest := .a1
  highest := .c1
  body := fallbackBody
  declared := [
    { name := "sectionTitle", kind := .string, description := some "Title for the section",
      required := true },
    { name := "count", kind := .number, description := some "Number of vocabulary items",
      required := true },
    { name := "vocabulary", kind := .array, description := some "Array of vocabulary items",
      required := true }]
  exampleData := some [
    ("count", .ofNat 1), ("sectionTitle", .string "Vocabulary"),
    ("vocabulary", .array [
      .object [("bulgarian", .string "къща"), ("german", .string "Haus")]])]

/-- The template of a raw record, if it keeps all rules. -/
def ofRecord (limit : Nat) (record : Loading.RawRecord) : Except DataFault LessonTemplate := do
  let template ← (decode record.value).mapError (.malformedRecord record.origin)
  template.validate limit
  return template

/-- Accepts a valid template whose id no earlier one has. -/
def judge (limit : Nat) : Loading.Judge LessonTemplate := fun kept record => do
  let template ← ofRecord limit record
  if kept.any (·.id == template.id) then .error (.invalidTemplate template.id [.uniqueId])
  else return template

end LessonTemplate

/-- The repository of the templates of a source, whose bodies must parse under the nesting limit. -/
def templateRepository (limit : Nat) (source : Loading.Source) :
    Loading.Repository LessonTemplate where
  source
  judge := LessonTemplate.judge limit
  fallback := LessonTemplate.fallback

/-- Templates that a lesson can use. -/
abbrev Shelf := Loading.Contents LessonTemplate

namespace Shelf

/-- Where templates are found. -/
structure Index where
  byId : Table String LessonTemplate := {}
  byUse : Table (LessonKind × Level) (List LessonTemplate) := {}

/-- Enters a template under its id, and last under its kind and each level of its range. -/
def Index.enter (index : Index) (template : LessonTemplate) : Index where
  byId := index.byId.insert template.id template
  byUse := template.uses.foldl (fun table use => table.push use template) index.byUse

/-- The templates that have been entered for a kind and level. -/
def Index.templatesFor (index : Index) (kind : LessonKind) (level : Level) : List LessonTemplate :=
  (index.byUse.get? (kind, level)).getD []

/-- The index of the templates, entered in the order in which they were loaded. -/
def index (shelf : Shelf) : Index := shelf.records.foldl Index.enter {}

/-- The templates for lessons of a kind and level. -/
def candidates (shelf : Shelf) (kind : LessonKind) (level : Level) : List LessonTemplate :=
  shelf.index.templatesFor kind level

/-- The template of an id. -/
def byId? (shelf : Shelf) (id : String) : Option LessonTemplate := shelf.index.byId.get? id

end Shelf

end BilingualLessons
