import BilingualLessons.Text.UnprintableData

namespace BilingualLessons.Text

/-!
# Quoted text

* `escaped` — a character as it stands in quoted text.
* `quoted` — a text in quotes, with escapes for what would not print.
-/

/-- The lower-case hexadecimal digits of `n`. -/
def hexDigits (n : Nat) : List Char := Nat.toDigits 16 n

/-- Whether a character does not print on its own. -/
def isUnprintable (c : Char) : Bool :=
  unprintableRanges.any fun (first, last) => first ≤ c.toNat && c.toNat ≤ last

/-- A character as it stands in quoted text: quotes, backslashes and the usual controls behind a
    backslash, anything else that does not print as its code point between braces. -/
def escaped (c : Char) : List Char :=
  if c = '\x00' then ['\\', '0']
  else if c = '\t' then ['\\', 't']
  else if c = '\r' then ['\\', 'r']
  else if c = '\n' then ['\\', 'n']
  else if c = '\\' ∨ c = '"' then ['\\', c]
  else if isUnprintable c then ['\\', 'u', '{'] ++ hexDigits c.toNat ++ ['}']
  else [c]

/-- A text in quotes. -/
def quoted (s : String) : String :=
  String.ofList (['"'] ++ s.toList.flatMap escaped ++ ['"'])

end BilingualLessons.Text
