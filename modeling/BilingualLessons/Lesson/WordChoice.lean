import BilingualLessons.Lesson.Planner

namespace BilingualLessons.Lesson

/-!
# The words of a thematic lesson

* `Planner.itemLimit` — how many words there may be.
* `isWanted` — whether a word is of the requested part of speech, mistakes of the data mended.
* `Planner.chooseWords` — words of the requested categories, or of the requested part of speech,
  or a sample.
-/

/-- Words of a level. -/
def gradeFilter (level : Level) (limit : Option Nat) : Vocabulary.Filter :=
  { difficulty := some level.number, limit }

/-- A search for words of a level and a part of speech. -/
def gradeSearch (level : Level) (part : PartOfSpeech) (limit : Nat) : Vocabulary.Search :=
  { difficulty := some level.number, partOfSpeech := some part.name, limit := some limit }

/-- Whether a word is of the requested part of speech; without one, every word is. -/
def isWanted (part? : Option PartOfSpeech) (item : Vocabulary.Item) : Bool :=
  part?.all fun part => item.part = part.name

/-- The share of each of `parts` equal parts, rounded up. -/
def share (whole parts : Nat) : Nat := (whole + parts - 1) / parts

namespace Planner

/-- How many words there may be: what the request says, or else the options, or else the
    settings. -/
def itemLimit (planner : Planner σ) (request : Request) (options : Options) : Nat :=
  ((positive? request.criteria.limit).or (positive? options.maxItems)).getD
    planner.settings.defaultItemLimit

/-- The wanted words of categories, one category after the other. -/
def categoryWords (planner : Planner σ) (filter : Vocabulary.Filter)
    (wanted : Vocabulary.Item → Bool) : List String → Planning σ (List Vocabulary.Item)
  | [] => return []
  | category :: rest => do
    let found ← ask (planner.provider.byCategory category filter)
    let others ← planner.categoryWords filter wanted rest
    return found.filter wanted ++ others

/-- The words that a limit is applied to. -/
def wordsUpTo (planner : Planner σ) (request : Request) (limit : Nat) :
    Planning σ (List Vocabulary.Item) := do
  let wanted := isWanted request.criteria.partOfSpeech
  match request.criteria.categories, request.criteria.partOfSpeech with
  | [], none => ask (planner.provider.sample limit (gradeFilter request.level none))
  | [], some part =>
    let page ← ask (planner.provider.search (gradeSearch request.level part limit))
    return page.items.filter wanted
  | categories, _ =>
    planner.categoryWords (gradeFilter request.level (some (share limit categories.length)))
      wanted categories

/-- The words of a thematic lesson. -/
def chooseWords (planner : Planner σ) (request : Request) (options : Options) :
    Planning σ (List Vocabulary.Item) := do
  let limit := planner.itemLimit request options
  return (← planner.wordsUpTo request limit).take limit

end Planner

end BilingualLessons.Lesson
