import BilingualLessons.Lesson.Planner
import BilingualLessons.Vocabulary.Loading
import BilingualLessons.Vocabulary.Sample

namespace BilingualLessons.Lesson

/-!
# Setting up a planner

* `Planner.ofSources` — over a source of templates, a source of concepts and a vocabulary.
* `Planner.ofVolume` — over the files that settings name.
-/

/-- The fault of a lesson whose vocabulary does not load. -/
def Fault.ofStoreFault : Vocabulary.StoreFault → Fault
  | .unavailable fault => .sourceUnavailable fault
  | fault => .vocabulary fault.message

namespace Planner

/-- A planner over sources, which choose at random. Templates and concepts that do not load are
    replaced by the built-in ones. -/
def ofSources [RandomGen γ] (settings : Settings) (templates concepts : Loading.Source)
    (store : Vocabulary.Store) : Planner γ where
  shelf := (templateRepository settings.render.maxNesting templates).contents
  catalogue := (Grammar.conceptRepository concepts).contents
  provider := store.randomProvider
  pick := Vocabulary.pickRandomly
  nesting := settings.render.maxNesting
  settings := settings.generation

/-- A planner over the files that settings name. Only a vocabulary that does not load makes it
    fail. -/
def ofVolume [RandomGen γ] (settings : Settings) (volume : Loading.Volume) :
    Except Vocabulary.StoreFault (Planner γ) := do
  let store ← Vocabulary.Store.load volume settings.data.vocabularyFile
  return ofSources settings (.directory volume settings.data.templatesDir)
    (.file volume settings.data.grammarFile) store

end Planner

end BilingualLessons.Lesson
