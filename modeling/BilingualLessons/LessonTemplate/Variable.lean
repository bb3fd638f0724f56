import BilingualLessons.Record.Shape

namespace BilingualLessons

/-!
# Variables of a lesson template

* `VariableKind` — the declared type of a variable and the values it accepts.
* `Variable` — a variable that a template expects.
-/

/-- The declared type of a variable. -/
inductive VariableKind where
  | string
  | number
  | boolean
  | array
  | object
deriving DecidableEq, Repr

namespace VariableKind

/-- The name of a type. -/
def name : VariableKind → String
  | .string => "string"
  | .number => "number"
  | .boolean => "boolean"
  | .array => "array"
  | .object => "object"

/-- The names of the types. -/
def names : List (String × VariableKind) :=
  [("string", .string), ("number", .number), ("boolean", .boolean), ("array", .array),
    ("object", .object)]

/-- The kind of value that a type accepts. -/
def kind : VariableKind → Json.Kind
  | .string => .string
  | .number => .number
  | .boolean => .boolean
  | .array => .array
  | .object => .object

/-- Whether a value is of the type. No type accepts null. -/
def accepts (declared : VariableKind) (v : Json) : Bool :=
  v.kind = declared.kind

/-- The type of exactly this name. -/
def decode : Record.Decoder VariableKind := Record.variant names

/-- The name as a value. -/
def encode (declared : VariableKind) : Json := .string declared.name

end VariableKind

/-- A variable that a template expects in its context. -/
structure Variable where
  name : String
  kind : VariableKind
  description : Option String := none
  required : Bool
  default? : Option Json := none
deriving DecidableEq, Repr

namespace Variable

/-- The fields of a variable's record. -/
def shape : Record.Shape where
  name := "TemplateVariable"
  slots := [.required "name" Record.text, .required "type" VariableKind.decode,
    .optional "description" Record.text, .required "required" Record.boolean,
    .optional "defaultValue" Record.anything]

/-- The variable of a record. -/
def decode : Record.Decoder Variable := fun v => do
  let found ← shape.read v
  return {
    name := ← found.required "name" Record.text
    kind := ← found.required "type" VariableKind.decode
    description := ← found.optional "description" Record.text
    required := ← found.required "required" Record.boolean
    default? := ← found.optional "defaultValue" Record.anything }

/-- The record of a variable. A description and a default are written only where there are some. -/
def encode (var : Variable) : Json :=
  .object <|
    (var.default?.map fun v => ("defaultValue", v)).toList ++
    (var.description.map fun s => ("description", Json.string s)).toList ++
    [("name", .string var.name), ("required", .bool var.required),
      ("type", var.kind.encode)]

end Variable

end BilingualLessons
