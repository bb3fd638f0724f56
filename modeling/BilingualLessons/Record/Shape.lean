import BilingualLessons.Record.Decode

namespace BilingualLessons.Record

/-!
# Shapes of records

A record is written as an object, or as an array of its fields' values in the order in which they
are declared.

* `Slot` — a field: its name, its other name, what fits, and whether it may be absent.
* `Shape` — a record's name and its slots.
* `Shape.fromFields`, `Shape.fromItems` — the values of an object and of an array.
* `Values` — the values that were found, by name of the slot.
-/

/-- Which places a field may be absent from. -/
inductive Absence where
  /-- Neither an object nor an array may lack it. -/
  | never
  /-- An object may lack it; an array may not. -/
  | inObject
  /-- It may be absent from both. -/
  | anywhere
deriving DecidableEq, Repr

/-- A field of a record. -/
structure Slot where
  name : String
  /-- A second name that objects may use. -/
  alias? : Option String
  absence : Absence
  /-- What is wrong with a value in this place, if anything is. -/
  misfit? : Json → Option Misfit

/-- What a decoder finds wrong with a value. -/
def misfitOf (decode : Decoder α) (v : Json) : Option Misfit :=
  match decode v with
  | .ok _ => none
  | .error misfit => some misfit

namespace Slot

/-- A field that must be there. -/
def required (name : String) (decode : Decoder α) : Slot :=
  ⟨name, none, .never, misfitOf decode⟩

/-- A field that may be absent. -/
def defaulted (name : String) (decode : Decoder α) : Slot :=
  ⟨name, none, .anywhere, misfitOf decode⟩

/-- A field that may be absent or null. -/
def optional (name : String) (decode : Decoder α) : Slot :=
  ⟨name, none, .anywhere, misfitOf (nullable decode)⟩

/-- A field that may be null, and absent from an object but not from an array. -/
def optionalInObject (name : String) (decode : Decoder α) : Slot :=
  ⟨name, none, .inObject, misfitOf (nullable decode)⟩

/-- The field with a second name. -/
def orNamed (slot : Slot) (name : String) : Slot := { slot with alias? := some name }

/-- Whether an object's key belongs to the field. -/
def isNamed (slot : Slot) (key : String) : Bool :=
  slot.name == key || slot.alias? == some key

end Slot

/-- The name of a record and its fields in the order of their declaration. -/
structure Shape where
  name : String
  slots : List Slot

/-- The values that were found, under the names of their slots. -/
abbrev Values := List (String × Json)

/-- The values of an object's fields, in the order of the keys. Unknown keys are passed over, a
    field may come only once, and the first value that does not fit is the misfit. -/
def visit (slots : List Slot) (found : Values) : Fields → Except Misfit Values
  | [] => .ok found
  | (key, v) :: rest =>
    match slots.find? (·.isNamed key) with
    | none => visit slots found rest
    | some slot =>
      if Fields.contains slot.name found then .error (.duplicateField slot.name)
      else
        match slot.misfit? v with
        | some misfit => .error misfit
        | none => visit slots (found ++ [(slot.name, v)]) rest

/-- The first field, in the order of their declaration, that must be there and is not. -/
def missing? (slots : List Slot) (found : Values) : Option String :=
  (slots.find? fun slot => slot.absence = .never && !Fields.contains slot.name found).map (·.name)

/-- The values of an object. -/
def Shape.fromFields (shape : Shape) (fields : Fields) : Except Misfit Values := do
  let found ← visit shape.slots [] fields
  match missing? shape.slots found with
  | some name => .error (.missingField name)
  | none => return found

/-- The values of an array from slot `index` on. -/
def Shape.assign (shape : Shape) (index : Nat) (items : List Json) :
    List Slot → Except Misfit Values
  | [] =>
    if items.isEmpty then .ok [] else .error (.wrongLength (index + items.length) .shorterArray)
  | slot :: slots =>
    match items with
    | v :: items =>
      match slot.misfit? v with
      | some misfit => .error misfit
      | none => do
        let rest ← shape.assign (index + 1) items slots
        return (slot.name, v) :: rest
    | [] =>
      if slot.absence = .anywhere then shape.assign (index + 1) [] slots
      else .error (.wrongLength index (.recordOf shape.name shape.slots.length))

/-- The values of an array. -/
def Shape.fromItems (shape : Shape) (items : List Json) : Except Misfit Values :=
  shape.assign 0 items shape.slots

/-- The values of a record, whichever way it is written. -/
def Shape.read (shape : Shape) : Decoder Values
  | .object fields => shape.fromFields fields
  | .array items => shape.fromItems items
  | v => .error (.wrongType v (.record shape.name))

/-! ### Taking the values -/

/-- The decoded value of a field that must be there. -/
def Values.required (found : Values) (name : String) (decode : Decoder α) : Except Misfit α :=
  match Fields.get? name found with
  | some v => decode v
  | none => .error (.missingField name)

/-- The decoded value of a field that may be absent. -/
def Values.defaulted (found : Values) (name : String) (decode : Decoder α) (default : α) :
    Except Misfit α :=
  match Fields.get? name found with
  | some v => decode v
  | none => .ok default

/-- The decoded value of a field that may be absent or null. -/
def Values.optional (found : Values) (name : String) (decode : Decoder α) :
    Except Misfit (Option α) :=
  found.defaulted name (nullable decode) none

end BilingualLessons.Record
