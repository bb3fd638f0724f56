import BilingualLessons.Record.Misfit

namespace BilingualLessons.Record

/-!
# Decoding values

* `Decoder` — from a JSON value to a typed one, or the misfit.
* `text`, `boolean`, `count`, `seed`, `octet`, `path`, `map`, `anything` — single values.
* `list`, `pair`, `nullable` — values with parts.
* `variant` — names of an enumeration.
-/

/-- Decodes a JSON value. -/
abbrev Decoder (α : Type) := Json → Except Misfit α

/-- A text. -/
def text : Decoder String
  | .string s => .ok s
  | v => .error (.wrongType v .text)

/-- A truth value. -/
def boolean : Decoder Bool
  | .bool b => .ok b
  | v => .error (.wrongType v .boolean)

/-- An integer from zero on and below `bound`. -/
def natBelow (bound : Nat) (expected : Expected) : Decoder Nat
  | .number (.whole i) =>
    if 0 ≤ i ∧ i < bound then .ok i.toNat
    else .error (.wrongValue (.number (.whole i)) expected)
  | v => .error (.wrongType v expected)

/-- A natural number below `2^64`. -/
def count : Decoder Nat := natBelow (Nat.pow 2 64) .count

/-- A natural number below `2^64` that is not the size of anything. -/
def seed : Decoder Nat := natBelow (Nat.pow 2 64) .seed

/-- A path, written as a text. -/
def path : Decoder String
  | .string s => .ok s
  | v => .error (.wrongType v .path)

/-- A natural number below `2^8`. -/
def octet : Decoder Nat := natBelow (Nat.pow 2 8) .octet

/-- The fields of an object. -/
def map : Decoder Fields
  | .object fields => .ok fields
  | v => .error (.wrongType v .map)

/-- Any value. -/
def anything : Decoder Json := .ok

/-- `null` as absence. -/
def nullable (decode : Decoder α) : Decoder (Option α)
  | .null => .ok none
  | v => (decode v).map some

/-- An array, element by element. The first misfit counts. -/
def list (decode : Decoder α) : Decoder (List α)
  | .array items => items.mapM decode
  | v => .error (.wrongType v .sequence)

/-- An array of two elements. -/
def pair (decode : Decoder α) : Decoder (α × α)
  | .array items =>
    match items with
    | [] => .error (.wrongLength 0 .pair)
    | [a] => do
      let _ ← decode a
      .error (.wrongLength 1 .pair)
    | a :: b :: rest => do
      let a ← decode a
      let b ← decode b
      if rest.isEmpty then return (a, b)
      else .error (.wrongLength (rest.length + 2) .shorterArray)
  | v => .error (.wrongType v .pair)

/-- The value that a name stands for. `names` lists every name in the order in which a message shows
    them. -/
def variantNamed (names : List (String × α)) (name : String) : Except Misfit α :=
  match names.find? (·.1 == name) with
  | some (_, a) => .ok a
  | none => .error (.unknownVariant name (names.map (·.1)))

/-- A name of an enumeration: a text, or an object with the name as its only key and null under
    it. -/
def variant (names : List (String × α)) : Decoder α
  | .string name => variantNamed names name
  | .object [(name, payload)] => do
    let a ← variantNamed names name
    match payload with
    | .null => return a
    | v => .error (.wrongType v .unit)
  | .object fields => .error (.wrongValue (.object fields) .singleKeyMap)
  | v => .error (.wrongType v .stringOrMap)

end BilingualLessons.Record
