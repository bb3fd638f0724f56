import BilingualLessons.Toml.Scalar
import BilingualLessons.Toml.Table
import BilingualLessons.Toml.Text

namespace BilingualLessons.Toml

/-!
# Documents

* `scalar`, `value` — values without and with parts.
* `Line`, `line` — a header, or a key with its value.
* `Draft` — a document up to some line.
* `read` — the fields of a whole document.
-/

/-! ### Values -/

/-- How a date reads: as an object that says so, since JSON has no dates. -/
def momentValue : Json := .object [("date-time", .bool true)]

/-- How a number that is no integer reads; nothing depends on which one it is. -/
def realValue : Json := .number (.real (.zero false))

/-- The elements of an array, behind its bracket. A comma may follow the last one. -/
def elements (item : Reader Json) : Reader (List Json) := do
  let found ← optional (separated (char ',') (gap *> item <* gap))
  if found.isSome then discard (optional (char ','))
  gap
  char ']'
  return found.getD []

/-- A key with its value. -/
def pair (item : Reader Json) : Reader (List String × Json) := do
  let path ← key
  char '='
  blanks
  let v ← item
  return (path, v)

/-- The fields of a table between braces, behind the first of them. -/
def inlineFields (item : Reader Json) : Reader Fields := do
  let found ← optional (separated (char ',') (pair item <* blanks))
  blanks
  char '\x7d'
  match (found.getD []).foldlM (fun table (path, v) => table.define path v) ({} : Table) with
  | some table => return table.fields
  | none => failure

/-- A value without parts. -/
def scalar : Reader Json :=
  (do return .string (← anyString)) <|>
    (text "true" *> pure (.bool true)) <|>
    (text "false" *> pure (.bool false)) <|>
    (moment *> pure momentValue) <|>
    (real *> pure realValue) <|>
    (do return .number (.whole (← integer)))

/-- A value, with at most `depth` containers inside one another. -/
def value : Nat → Reader Json
  | 0 => scalar
  | depth + 1 =>
    (char '[' *> (do return .array (← elements (value depth)))) <|>
    (char '\x7b' *> (do return .object (← inlineFields (value depth)))) <|>
    scalar

/-! ### Lines -/

/-- A line that says something. -/
inductive Line where
  | pair (path : List String) (value : Json)
  | header (path : List String)
  /-- The header of one more table with this path. -/
  | element (path : List String)

/-- What a line says. -/
def statement : Reader Line :=
  (text "[[" *> (do return .element (← key)) <* text "]]") <|>
    (char '[' *> (do return .header (← key)) <* char ']') <|>
    (do
      let (path, v) ← pair (value (depthLimit - 1))
      return .pair path v)

/-- A line, or the last of a text. -/
def line : Reader (Option Line) := do
  blanks
  let found ← optional statement
  restOfLine
  return found

/-- The lines of a text, of which there are fewer than `fuel`. -/
def lines : Nat → List Char → Option (List Line)
  | 0, _ => none
  | _, [] => some []
  | fuel + 1, cs => do
    let (found, rest) ← line cs
    let others ← lines fuel rest
    return found.toList ++ others

/-! ### Tables -/

/-- A document up to some line: the finished tables, and the one that keys go to. -/
structure Draft where
  root : Table := {}
  /-- The path of the table that keys go to; none before the first header. -/
  path : List String := []
  isElement : Bool := false
  current : Table := {}

namespace Draft

/-- Puts the current table in its place. -/
def finish (draft : Draft) : Option Table :=
  match draft.path.reverse with
  | [] => some draft.current
  | key :: above =>
    Table.alter false
      (fun outer =>
        if draft.isElement then
          match outer.get? key with
          | none => some (outer.set key (.tables [draft.current.entries]))
          | some (.tables found) =>
            some (outer.set key (.tables (found ++ [draft.current.entries])))
          | some _ => none
        else
          match outer.get? key with
          | none | some (.table .implied _) =>
            some (outer.set key (.table .header draft.current.entries))
          | some _ => none)
      above.reverse draft.root

/-- The entries that a header takes over: those of a table that headers of tables inside it have
    implied. None if the table is there in another way. -/
def takenOver (root : Table) (path : List String) : Option (List (String × Node)) :=
  match root.find? path with
  | none => some []
  | some (.table .implied entries) => some entries
  | some _ => none

/-- The document with one more line. -/
def add (draft : Draft) : Line → Option Draft
  | .pair path v => do
    let current ← draft.current.define path v
    return { draft with current }
  | .header path => do
    let root ← draft.finish
    let entries ← takenOver root path
    return { root, path, current := { entries } }
  | .element path => do
    let root ← draft.finish
    return { root, path, isElement := true }

end Draft

/-- The fields of a document; none if the text is not one. -/
def read (source : String) : Option Fields := do
  let cs := match source.toList with
    | c :: rest => if c = Char.ofNat 0xFEFF then rest else c :: rest
    | [] => []
  let found ← lines (cs.length + 1) cs
  let draft ← found.foldlM Draft.add {}
  let root ← draft.finish
  return root.fields

end BilingualLessons.Toml
