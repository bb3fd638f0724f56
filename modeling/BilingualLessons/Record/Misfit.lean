import BilingualLessons.Json.Writer
import BilingualLessons.Text.Quoted

namespace BilingualLessons.Record

/-!
# Values that do not fit

* `Expected` — what a place in a record holds.
* `Misfit` — why a value does not decode, and the words for it.
-/

/-- What a place in a record holds. -/
inductive Expected where
  | text
  | boolean
  | sequence
  | map
  /-- A natural number below `2^64`. -/
  | count
  /-- A natural number below `2^64` that is not the size of anything. -/
  | seed
  /-- A natural number below `2^8`. -/
  | octet
  | pair
  | record (name : String)
  /-- A record with the number of its fields. -/
  | recordOf (name : String) (size : Nat)
  | stringOrMap
  | singleKeyMap
  | unit
  | shorterArray
  | uuid
  | timestamp
  | path
deriving DecidableEq, Repr

/-- The words for what a place holds. -/
def Expected.message : Expected → String
  | .text => "a string"
  | .boolean => "a boolean"
  | .sequence => "a sequence"
  | .map => "a map"
  | .count => "usize"
  | .seed => "u64"
  | .octet => "u8"
  | .pair => "a tuple of size 2"
  | .record name => s!"struct {name}"
  | .recordOf name size => s!"struct {name} with {size} element" ++ (if size = 1 then "" else "s")
  | .stringOrMap => "string or map"
  | .singleKeyMap => "map with a single key"
  | .unit => "unit"
  | .shorterArray => "fewer elements in array"
  | .uuid => "a formatted UUID string"
  | .timestamp => "an RFC 3339 formatted date and time string"
  | .path => "path string"

/-- A name between backticks. -/
def ticked (name : String) : String := "`" ++ name ++ "`"

/-- A value as a message shows it: its kind, and the value itself unless it has parts. -/
def describe : Json → String
  | .null => "null"
  | .bool b => "boolean " ++ ticked (if b then "true" else "false")
  | .number (.whole i) => "integer " ++ ticked (toString i)
  | .number (.real x) => "floating point " ++ ticked (Decimal.exactText x)
  | .string s => "string " ++ Text.quoted s
  | .array _ => "sequence"
  | .object _ => "map"

/-- Why a value does not decode. -/
inductive Misfit where
  | wrongType (found : Json) (expected : Expected)
  | wrongValue (found : Json) (expected : Expected)
  | wrongLength (length : Nat) (expected : Expected)
  | unknownVariant (name : String) (known : List String)
  | missingField (name : String)
  | duplicateField (name : String)
  /-- A text that its own notation does not allow. -/
  | unreadable (reason : String)
deriving DecidableEq, Repr

/-- The choice between names. -/
def oneOf (names : List String) : String :=
  match names with
  | [] => "there are no variants"
  | [a] => "expected " ++ ticked a
  | [a, b] => "expected " ++ ticked a ++ " or " ++ ticked b
  | names => "expected one of " ++ ", ".intercalate (names.map ticked)

/-- The words for a misfit. -/
def Misfit.message : Misfit → String
  | .wrongType found expected => s!"invalid type: {describe found}, expected {expected.message}"
  | .wrongValue found expected => s!"invalid value: {describe found}, expected {expected.message}"
  | .wrongLength length expected => s!"invalid length {length}, expected {expected.message}"
  | .unknownVariant name known => "unknown variant " ++ ticked name ++ ", " ++ oneOf known
  | .missingField name => "missing field " ++ ticked name
  | .duplicateField name => "duplicate field " ++ ticked name
  | .unreadable reason => reason

end BilingualLessons.Record
