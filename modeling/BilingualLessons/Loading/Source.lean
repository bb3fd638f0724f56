import BilingualLessons.Loading.Report
import BilingualLessons.Loading.Walk

namespace BilingualLessons.Loading

/-!
# Sources of records

* `Source` — records at hand, a JSON file, or the JSON files below a directory.
* `members` — the records that a file holds.
* `Source.fetch` — every record of a source, and the files that gave none.
-/

/-- Everything that a source gave. -/
structure Batch where
  records : List RawRecord := []
  /-- The files that could not be read. -/
  faults : List LoadFault := []
  filesProcessed : Nat := 0

/-- One batch behind the other. -/
def Batch.append (a b : Batch) : Batch :=
  ⟨a.records ++ b.records, a.faults ++ b.faults, a.filesProcessed + b.filesProcessed⟩

/-! ### Files -/

/-- The keys under which an object may hold a list of records, the one that wins first. -/
def collectionKeys : List String := ["templates", "concepts"]

/-- The array under a key of an object. -/
def arrayAt? (fields : Fields) (key : String) : Option (List Json) :=
  match Fields.get? key fields with
  | some (.array items) => some items
  | _ => none

/-- The list of records that a value holds; none if it is a record itself. -/
def collection? : Json → Option (List Json)
  | .array items => some items
  | .object fields => collectionKeys.findSome? (arrayAt? fields)
  | _ => none

/-- The records of a list, numbered. -/
def numbered (origin : String) (items : List Json) : List RawRecord :=
  items.zipIdx.map fun (v, i) => ⟨s!"{origin}#{i}", v⟩

/-- The records that the content of a file holds. -/
def members (origin : String) (v : Json) : List RawRecord :=
  match collection? v with
  | some items => numbered origin items
  | none => [⟨origin, v⟩]

/-- The text of a file. -/
def textOf? (content : ByteArray) : Option String := String.fromUTF8? content

/-- What one file gives: its records, or one fault. -/
def readFile (origin : String) (content : ByteArray) : Batch :=
  match textOf? content with
  | none => { faults := [⟨origin, .unreadable⟩], filesProcessed := 1 }
  | some text =>
    let source := text.toList
    match Json.read source with
    | .ok v => { records := members origin v, filesProcessed := 1 }
    | .error fault =>
      { faults := [⟨origin, .unparsable fault.reason (fault.line source)⟩], filesProcessed := 1 }

/-- What several files give. -/
def readFiles (files : List (String × ByteArray)) : Batch :=
  files.foldr (fun (origin, content) rest => (readFile origin content).append rest) {}

/-! ### Sources -/

/-- A tree of files and the name that its root has in messages. -/
structure Volume where
  root : String
  tree : FileTree

/-- A path with one more name. A name that starts at the root of all files stands alone. -/
def joinName (path name : String) : String :=
  if name.startsWith "/" then name
  else if path.endsWith "/" then path ++ name
  else path ++ "/" ++ name

/-- A path from the root as messages show it. -/
def Volume.display (volume : Volume) (path : String) : String :=
  if path = "" then volume.root else joinName volume.root path

/-- The path of a file below a directory as messages show it. -/
def Volume.displayBelow (volume : Volume) (path : String) (below : Path) : String :=
  below.foldl joinName (volume.display path)

/-- The text of a file; none if there is no file in its place or no text in it. -/
def Volume.readText? (volume : Volume) (path : String) : Option String :=
  match volume.tree.find? (Path.ofText path) with
  | some (.file content) => textOf? content
  | _ => none

/-- Where records come from. -/
inductive Source where
  /-- Records at hand, under the name of the source. -/
  | records (name : String) (values : List Json)
  /-- One JSON file. -/
  | file (volume : Volume) (path : String)
  /-- The JSON files below a directory. -/
  | directory (volume : Volume) (path : String)

namespace Source

/-- The name of a source in messages. -/
def name : Source → String
  | .records name _ => name
  | .file volume path => volume.display path
  | .directory volume path => volume.display path

/-- Every record of a source. A source fails as a whole only if there is nothing of its kind in its
    place. -/
def fetch : Source → Except Unavailable Batch
  | .records name values =>
    .ok { records := values.zipIdx.map fun (v, i) => ⟨s!"{name}[{i}]", v⟩ }
  | .file volume path =>
    match volume.tree.find? (Path.ofText path) with
    | some (.file content) => .ok (readFile (volume.display path) content)
    | _ => .error ⟨volume.display path, .missingFile⟩
  | .directory volume path =>
    match volume.tree.find? (Path.ofText path) with
    | some (.directory entries) =>
      .ok <| readFiles <| (jsonFiles entries).map fun (below, content) =>
        (volume.displayBelow path below, content)
    | _ => .error ⟨volume.display path, .missingDirectory⟩

end Source

end BilingualLessons.Loading
