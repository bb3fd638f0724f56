import BilingualLessons.Loading.FileTree

namespace BilingualLessons.Loading

/-!
# JSON files below a directory

* `isJsonName` — the names of JSON files.
* `Walk` — a walk through directories, one listed after the other, links not followed.
* `jsonFiles` — the JSON files below a directory, in the order of their paths.
-/

/-! ### Names -/

/-- The part of a name behind its last point. A point at the very start does not count. -/
def extension? (name : String) : Option String :=
  let reversed := name.toList.reverse
  match reversed.dropWhile (· ≠ '.') with
  | '.' :: _ :: _ => some (String.ofList (reversed.takeWhile (· ≠ '.')).reverse)
  | _ => none

/-- Whether a name has the extension `json`, in any case. -/
def isJsonName (name : String) : Bool :=
  match extension? name with
  | some ext => ext.toList.map Char.toLower = ['j', 's', 'o', 'n']
  | none => false

/-! ### Directories -/

/-- What lies in a directory. -/
abbrev Entries := List (String × FileTree)

mutual

/-- The number of directories in a tree, itself counted. -/
def FileTree.directories : FileTree → Nat
  | .directory entries => directoriesIn entries + 1
  | _ => 0

/-- The number of directories below a directory. -/
def directoriesIn : Entries → Nat
  | [] => 0
  | (_, tree) :: rest => tree.directories + directoriesIn rest

end

/-! ### Walks -/

/-- How far a walk through directories has come. -/
structure Walk where
  /-- The directories that are still to be listed, the next one first. -/
  pending : List (Path × Entries)
  /-- The JSON files that have been met, the last one first. -/
  found : List (Path × ByteArray)

namespace Walk

/-- Takes up an entry of the directory `here`: a directory is put off, a JSON file is kept, and a
    link is passed over. -/
def meet (here : Path) (walk : Walk) : String × FileTree → Walk
  | (_, .link _) => walk
  | (name, .directory entries) => { walk with pending := (here ++ [name], entries) :: walk.pending }
  | (name, .file content) =>
    if isJsonName name then { walk with found := (here ++ [name], content) :: walk.found }
    else walk

/-- Takes up the entries of the directory `here`, one after the other. -/
def list (here : Path) (entries : Entries) (walk : Walk) : Walk := entries.foldl (meet here) walk

/-- The number of directories that are still to be listed, those not met yet counted. -/
def remaining (walk : Walk) : Nat :=
  walk.pending.foldr (fun (_, entries) rest => directoriesIn entries + 1 + rest) 0

theorem remaining_meet (here : Path) (walk : Walk) (entry : String × FileTree) :
    (walk.meet here entry).remaining = walk.remaining + entry.2.directories := by
  obtain ⟨name, tree⟩ := entry
  cases tree with
  | file content =>
    simp only [meet, FileTree.directories]
    split <;> rfl
  | directory entries =>
    simp only [meet, remaining, FileTree.directories, List.foldr_cons]
    omega
  | link target => rfl

theorem remaining_list (here : Path) (entries : Entries) (walk : Walk) :
    (walk.list here entries).remaining = walk.remaining + directoriesIn entries := by
  induction entries generalizing walk with
  | nil => rfl
  | cons entry rest ih =>
    have hrest : ((walk.meet here entry).list here rest).remaining
        = (walk.meet here entry).remaining + directoriesIn rest := ih _
    rw [remaining_meet] at hrest
    rw [directoriesIn]
    exact hrest.trans (by omega)

/-- Lists directories until none is left, the one met last before the others. -/
def run : Walk → List (Path × ByteArray)
  | ⟨[], found⟩ => found
  | ⟨(here, entries) :: pending, found⟩ => run (list here entries ⟨pending, found⟩)
termination_by walk => walk.remaining
decreasing_by
  rw [remaining_list]
  simp only [remaining, List.foldr_cons]
  omega

end Walk

/-! ### Order -/

/-- Whether a path does not come after another, name by name. -/
def pathLe (a b : Path) : Bool := !decide (b < a)

/-- The JSON files below a directory, in ascending order of their paths. -/
def jsonFiles (entries : Entries) : List (Path × ByteArray) :=
  (Walk.run ⟨[([], entries)], []⟩).mergeSort fun a b => pathLe a.1 b.1

end BilingualLessons.Loading
