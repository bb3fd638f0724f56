import BilingualLessons.Json.Value
import BilingualLessons.Decimal.Shortest

namespace BilingualLessons.Template

/-!
# Values in a template

* `isTruthy` — which values a condition takes for true.
* `scalarText` — what a substitution writes.
-/

/-- The text of a number: integers in decimal, doubles without an exponent. -/
def numberText : Number → String
  | .whole i => toString i
  | .real x => Decimal.plainText x

/-- The text that a substitution writes for a scalar; none for `null`, arrays and objects. -/
def scalarText : Json → Option String
  | .string s => some s
  | .bool b => some (if b then "true" else "false")
  | .number n => some (numberText n)
  | .null => none
  | .array _ => none
  | .object _ => none

/-- Whether a condition takes a value for true. An absent value, `null`, `false`, zero, the empty
    text and the texts `false` and `0` are false; arrays and objects are true even when empty. -/
def isTruthy : Option Json → Bool
  | none => false
  | some .null => false
  | some (.bool b) => b
  | some (.number n) => !n.isZero
  | some (.string s) => !(s = "" || s = "false" || s = "0")
  | some (.array _) => true
  | some (.object _) => true

end BilingualLessons.Template
