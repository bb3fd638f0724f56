namespace BilingualLessons.Loading

/-!
# File trees

Files, directories and symbolic links below a root directory.

* `FileTree` — a file, a directory or a link.
* `FileTree.place?`, `FileTree.find?` — where a path leads to and what is there, links followed.
* `FileTree.withDirectories`, `FileTree.withFile`, `FileTree.withLink` — what a tree becomes when
  something is added, directories on the way included.
-/

/-- The names on the way from the root to a place. -/
abbrev Path := List String

/-- The names in a written path. A slash at the end asks for a directory, as `.` does. A slash at
    the start leads out of the tree, as `..` does from its root. -/
def Path.ofText (text : String) : Path :=
  let names := (text.toList.splitOn '/').map String.ofList
  let isSplit := names.length ≥ 2
  (if isSplit ∧ names.head? = some "" then [".."] else []) ++ names.filter (· ≠ "") ++
    (if isSplit ∧ names.getLast? = some "" then ["."] else [])

/-- A file, a directory or a link to a place below the root. -/
inductive FileTree where
  | file (content : ByteArray)
  | directory (entries : List (String × FileTree))
  | link (target : Path)

instance : Inhabited FileTree := ⟨.directory []⟩

/-! ### Entries of a directory -/

/-- The entry of a name. -/
def entryNamed? (name : String) : List (String × FileTree) → Option FileTree
  | [] => none
  | (n, t) :: rest => if n = name then some t else entryNamed? name rest

/-- Sets the entry of a name; a new one goes to the end. -/
def setEntry (name : String) (tree : FileTree) : List (String × FileTree) → List (String × FileTree)
  | [] => [(name, tree)]
  | (n, t) :: rest => if n = name then (n, tree) :: rest else (n, t) :: setEntry name tree rest

namespace FileTree

/-! ### Places -/

/-- The tree in a place, which is named without links, `.` and `..`. -/
def at? : FileTree → Path → Option FileTree
  | tree, [] => some tree
  | .directory entries, name :: rest =>
    match entryNamed? name entries with
    | some next => at? next rest
    | none => none
  | _, _ :: _ => none

/-- Puts `added` in a place, with directories around it. -/
def put (added : FileTree) : Path → FileTree → FileTree
  | [], _ => added
  | name :: rest, .directory entries =>
    .directory
      (setEntry name (put added rest ((entryNamed? name entries).getD (.directory []))) entries)
  | name :: rest, _ => .directory [(name, put added rest (.directory []))]

/-- The number of links that are followed on the way to a place. -/
def maxLinks : Nat := 40

/-- The place that `path` leads to from the place `here`, with at most `links` links on the way.
    There need not be anything in it, but what it lies in is a directory. -/
def placeFrom? (root : FileTree) (links : Nat) (here path : Path) : Option Path :=
  match path with
  | [] => some here
  | name :: rest =>
    match root.at? here with
    | some (.directory entries) =>
      if name = "." then placeFrom? root links here rest
      else if name = ".." then
        if here.isEmpty then none else placeFrom? root links here.dropLast rest
      else
        match entryNamed? name entries, links with
        | some (.link _), 0 => none
        | some (.link target), links + 1 => placeFrom? root links [] (target ++ rest)
        | _, links => placeFrom? root links (here ++ [name]) rest
    | _ => none
termination_by (links, path.length)

/-- The place that a path from the root leads to, links followed. -/
def place? (root : FileTree) (path : Path) : Option Path :=
  placeFrom? root maxLinks [] path

/-- What a path from the root leads to, links followed. -/
def find? (root : FileTree) (path : Path) : Option FileTree :=
  (root.place? path).bind root.at?

/-! ### Changes -/

/-- The place that a path names, a link in it not followed. It lies in a directory. -/
def slot? (root : FileTree) (path : Path) : Option Path :=
  match path.getLast?, root.place? path.dropLast with
  | some name, some place =>
    match root.at? place with
    | some (.directory _) => if name = "." ∨ name = ".." then none else some (place ++ [name])
    | _ => none
  | _, _ => none

/-- Puts something in the place that a path names, unless there is something already. -/
def withNew (root : FileTree) (path : Path) (added : FileTree) : FileTree :=
  match root.slot? path with
  | some place => if (root.at? place).isSome then root else put added place root
  | none => root

/-- Makes the directories on the way to a path, and one in its place. -/
def withDirectories (root : FileTree) (path : Path) : FileTree :=
  (List.range (path.length + 1)).foldl
    (fun tree n => tree.withNew (path.take n) (.directory [])) root

/-- Writes a file, directories on the way included. A link in its place is followed; a directory in
    its place stays. -/
def withFile (root : FileTree) (path : Path) (content : ByteArray) : FileTree :=
  let tree := root.withDirectories path.dropLast
  match tree.place? path with
  | some place =>
    match tree.at? place with
    | some (.directory _) => tree
    | _ => put (.file content) place tree
  | none => tree

/-- Makes a link, directories on the way included. Whatever is in its place already stays. -/
def withLink (root : FileTree) (path target : Path) : FileTree :=
  (root.withDirectories path.dropLast).withNew path (.link target)

end FileTree

end BilingualLessons.Loading
