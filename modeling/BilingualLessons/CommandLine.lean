import BilingualLessons.Lesson.Request

namespace BilingualLessons.CommandLine

/-!
# The command line

* `usage` — how the program is called.
* `UsageFault` — why arguments are refused.
* `Arguments` — what has been taken in of the arguments, one after the other.
* `parse` — the request that arguments stand for.
-/

/-- The name of the program. -/
def programName : String := "tandem-lessons"

/-- How the program is called. -/
def usage : String :=
  s!"usage: {programName} [--bg] [TYPE] [LEVEL] [CATEGORY...]\n" ++
    "\n  TYPE      vocabulary | grammar | mixed | cultural | contextual (default: vocabulary)" ++
    "\n  LEVEL     A1 | A2 | B1 | B2 | C1 (default: A1)" ++
    "\n  --bg      learner reads Bulgarian and learns German"

/-- The flag for learners who read Bulgarian. -/
def bulgarianFlag : String := "--bg"

/-- The flags that ask for the usage text alone. -/
def helpFlags : List String := ["-h", "--help"]

/-- Why arguments are refused. -/
inductive UsageFault where
  | unknownFlag (flag : String)
  /-- The first word is not a kind of lesson. -/
  | badKind (reason : String)
  /-- The second word is not a level. -/
  | badLevel (reason : String)
deriving DecidableEq, Repr

/-- What is wrong with the arguments. -/
def UsageFault.reason : UsageFault → String
  | .unknownFlag flag => s!"unknown flag {flag}"
  | .badKind reason => reason
  | .badLevel reason => reason

/-- The words for a fault, with the usage behind them. -/
def UsageFault.message (fault : UsageFault) : String := s!"{fault.reason}\n\n{usage}"

/-- What arguments say: the direction that a flag among them asks for, and the words, which are the
    arguments that are no flags. -/
structure Arguments where
  direction : Direction := .germanToBulgarian
  words : List String := []
deriving DecidableEq, Repr

namespace Arguments

/-- Takes in one more argument. -/
def add (known : Arguments) (arg : String) : Except UsageFault Arguments :=
  if arg = bulgarianFlag then .ok { known with direction := .bulgarianToGerman }
  else if arg.startsWith "--" then .error (.unknownFlag arg)
  else .ok { known with words := known.words ++ [arg] }

/-- Takes in arguments from left to right, up to the first flag that does not exist. -/
def ofList (args : List String) : Except UsageFault Arguments := args.foldlM add {}

end Arguments

/-- What a word stands for; `default` if there is no word. -/
def wordOr (default : α) (parse : String → Except String α) (fault : String → UsageFault) :
    Option String → Except UsageFault α
  | none => .ok default
  | some word => (parse word).mapError fault

/-- The request that the words stand for: the first one is a kind, the second one a level, and all
    others are categories. -/
def Arguments.request (known : Arguments) : Except UsageFault Lesson.Request := do
  let kind ← wordOr .vocabulary LessonKind.parse .badKind known.words[0]?
  let level ← wordOr .a1 Level.parse .badLevel known.words[1]?
  return {
    kind? := some kind
    level
    criteria := { categories := known.words.drop 2 }
    direction := known.direction }

/-- The request that arguments stand for. -/
def parse (args : List String) : Except UsageFault Lesson.Request := do
  (← Arguments.ofList args).request

end BilingualLessons.CommandLine
