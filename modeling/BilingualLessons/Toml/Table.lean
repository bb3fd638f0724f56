import BilingualLessons.Json.Value

namespace BilingualLessons.Toml

/-!
# Tables under construction

A table can be defined once, but in several ways: by a header of its own, by the header of a table
inside it, or by keys with points.  What may be added to it later hangs on the way.

* `Origin` — the way.
* `Node` — what stands under a key.
* `Table.alter` — changes the table that a path leads to, which is made where there is none.
* `Table.find?` — what a path leads to.
* `Table.define` — sets a value under the names of a key.
* `Node.value` — what a finished node stands for.
-/

/-- The way in which a table was defined. -/
inductive Origin where
  /-- By a header of its own, or between braces. -/
  | header
  /-- By the header of a table inside it. -/
  | implied
  /-- By a key with points. -/
  | dotted
deriving DecidableEq, Repr

/-- What stands under a key. -/
inductive Node where
  | leaf (value : Json)
  | table (origin : Origin) (entries : List (String × Node))
  /-- Tables with one header, of which later headers and keys mean the last. -/
  | tables (elements : List (List (String × Node)))

/-- A table with its origin. -/
structure Table where
  origin : Origin := .header
  entries : List (String × Node) := []

namespace Table

/-- What stands under a key. -/
def get? (table : Table) (key : String) : Option Node := table.entries.lookup key

/-- Sets what stands under a key. -/
def set (table : Table) (key : String) (node : Node) : Table :=
  { table with entries := (key, node) :: table.entries.filter (·.1 != key) }

/-- Changes the table that a path leads to. Tables that are missing on the way are made; what a
    header defined is closed to keys with points. -/
def alter (byKey : Bool) (change : Table → Option Table) : List String → Table → Option Table
  | [], table => change table
  | key :: rest, table =>
    match table.get? key with
    | none => do
      let inner ← Table.alter byKey change rest ⟨if byKey then .dotted else .implied, []⟩
      return table.set key (.table inner.origin inner.entries)
    | some (.leaf _) => none
    | some (.table origin entries) =>
      if byKey && origin = .header then none
      else do
        let inner ← Table.alter byKey change rest ⟨origin, entries⟩
        return table.set key (.table inner.origin inner.entries)
    | some (.tables elements) =>
      match elements.getLast? with
      | none => none
      | some entries => do
        let inner ← Table.alter byKey change rest ⟨.header, entries⟩
        return table.set key (.tables (elements.dropLast ++ [inner.entries]))

/-- What a path leads to; none where something is missing on the way. -/
def find? : List String → Table → Option Node
  | [], table => some (.table table.origin table.entries)
  | key :: rest, table =>
    match rest, table.get? key with
    | [], found => found
    | rest, some (.table origin entries) => find? rest ⟨origin, entries⟩
    | rest, some (.tables elements) => find? rest ⟨.header, elements.getLast?.getD []⟩
    | _, _ => none

/-- Sets a value that is not there yet under the last of the names, in the table that the others
    lead to. -/
def define (path : List String) (value : Json) (table : Table) : Option Table :=
  match path.reverse with
  | [] => none
  | key :: above =>
    Table.alter true
      (fun inner =>
        if decide (inner.origin = .dotted) = above.isEmpty then none
        else if (inner.get? key).isSome then none
        else some (inner.set key (.leaf value)))
      above.reverse table

end Table

/-! ### Finished tables -/

mutual

/-- What a finished node stands for. -/
def Node.value : Node → Json
  | .leaf v => v
  | .table _ entries => .object (entryValues entries)
  | .tables elements => .array (elementValues elements)

/-- What finished entries stand for. -/
def entryValues : List (String × Node) → Fields
  | [] => []
  | (key, node) :: rest => (entryValues rest).insert key node.value

/-- What the tables of one header stand for. -/
def elementValues : List (List (String × Node)) → List Json
  | [] => []
  | entries :: rest => .object (entryValues entries) :: elementValues rest

end

/-- What a finished table stands for. -/
def Table.fields (table : Table) : Fields := entryValues table.entries

end BilingualLessons.Toml
