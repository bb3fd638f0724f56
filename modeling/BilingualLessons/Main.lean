import BilingualLessons.CommandLine
import BilingualLessons.Lesson.Generation
import BilingualLessons.Lesson.Setup
import BilingualLessons.Settings.Reading

namespace BilingualLessons.Program

/-!
# The program

Reads the settings and the files that they name, and prints the lesson that the arguments ask for.
-/

/-- The content of a file; none if it cannot be read. -/
def contentOf? (path : String) : IO (Option ByteArray) := do
  try
    return some (← IO.FS.readBinFile path)
  catch _ =>
    return none

/-- The file in a place. A directory stands for what cannot be read. -/
def fileAt (path : String) : IO Loading.FileTree := do
  match ← contentOf? path with
  | some content => return .file content
  | none => return .directory []

/-- The directory in a place with all that is below it. A file stands for what cannot be read. -/
partial def directoryAt (path : String) : IO Loading.FileTree := do
  let place := (← IO.currentDir) / path
  unless ← place.isDir do return .file .empty
  let mut entries := []
  for entry in ← place.readDir do
    let below := entry.path.toString
    let metadata ← entry.path.symlinkMetadata
    let tree ← match metadata.type with
      | .dir => directoryAt below
      | .file => fileAt below
      | _ => pure (.link [])
    entries := (entry.fileName, tree) :: entries
  return .directory entries

/-- The place of the settings file: below the user's directory of settings. -/
def settingsPath : IO String := do
  let below (directory : String) := s!"{directory}/{CommandLine.programName}/config.toml"
  match ← IO.getEnv "XDG_CONFIG_HOME", ← IO.getEnv "HOME" with
  | some directory, _ => return below directory
  | none, some home => return below s!"{home}/.config"
  | none, none => return "config.toml"

/-- The present, which a new file carries. -/
def now : IO Timestamp := do
  let (_, path) ← IO.FS.createTempFile
  let metadata ← path.metadata
  IO.FS.removeFile path
  return { seconds := metadata.modified.sec, nanoseconds := metadata.modified.nsec.toNat }

/-- A new identifier. -/
def newId : IO Uuid := do
  let bytes ← IO.getRandomBytes 16
  return .random (bytes.toList.foldl (fun bits byte => bits <<< 8 ||| byte.toBitVec.setWidth 128) 0)

/-- The state of random choices: that of the seed, if there is one. -/
def generatorOf (seed : Option Nat) : IO StdGen := do
  match seed with
  | some n => return mkStdGen n
  | none => return mkStdGen (← IO.rand 0 (Nat.pow 2 31 - 2))

/-- The planner over the files of the settings. -/
def plannerOf (settings : Settings) :
    IO (Except Vocabulary.StoreFault (Lesson.Planner StdGen)) := do
  let templates : Loading.Volume :=
    ⟨settings.data.templatesDir, ← directoryAt settings.data.templatesDir⟩
  let concepts : Loading.Volume :=
    ⟨settings.data.grammarFile, ← fileAt settings.data.grammarFile⟩
  let vocabulary : Loading.Volume :=
    ⟨settings.data.vocabularyFile, ← fileAt settings.data.vocabularyFile⟩
  return (Vocabulary.Store.load vocabulary "").map
    (Lesson.Planner.ofSources settings (.directory templates "") (.file concepts ""))

/-- Says why there is no lesson. -/
def refuse (reason : String) : IO UInt32 := do
  IO.eprintln s!"Error: {reason}"
  return 1

/-- Prints the lesson that the arguments ask for, or why there is none. -/
def run (args : List String) : IO UInt32 := do
  if args.any CommandLine.helpFlags.contains then
    IO.println CommandLine.usage
    return 0
  let (_, settings) := Settings.ofFile (← contentOf? (← settingsPath))
  match CommandLine.parse args with
  | .error fault => refuse fault.message
  | .ok request =>
    match ← plannerOf settings with
    | .error fault =>
      let path := settings.data.vocabularyFile
      let cause := (Lesson.Fault.ofStoreFault fault).message
      refuse s!"loading vocabulary from {path}\n\nCaused by:\n    {cause}"
    | .ok planner =>
      let generator ← generatorOf settings.generation.selectionSeed
      match (planner.lesson request {}).run generator with
      | (.error fault, _) => refuse fault.message
      | (.ok lesson, _) =>
        let ids ← lesson.sections.mapM fun _ => newId
        IO.println (lesson.issue (← newId) ids (← now)).encode.pretty
        return 0

end BilingualLessons.Program

/-- The program. -/
def main (args : List String) : IO UInt32 := BilingualLessons.Program.run args
