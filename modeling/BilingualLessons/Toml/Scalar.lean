import BilingualLessons.Decimal.Binary64
import BilingualLessons.Json.Reader
import BilingualLessons.Timestamp
import BilingualLessons.Toml.Reader

namespace BilingualLessons.Toml

/-!
# Numbers and dates

* `integer` — a whole number of 64 bits, in one of four bases.
* `real` — any other number, not beyond the largest double.
* `moment` — a date, a time of day, or both.
-/

/-! ### Integers -/

/-- Digits that pass, with single underscores between them. -/
def digitsOf (p : Char → Bool) : Reader (List Char) := do
  let first ← satisfy p
  let others ← repeated (optional (char '_') *> satisfy p)
  return first :: others

/-- A sign; whether it is a minus. -/
def sign : Reader Bool :=
  (char '-' *> pure true) <|> (char '+' *> pure false) <|> pure false

/-- Decimal digits that a zero does not lead, unless it stands alone. -/
def wholeDigits : Reader (List Char) :=
  (do
    let first ← satisfy fun c => c.isDigit && c != '0'
    let others ← repeated (optional (char '_') *> satisfy Char.isDigit)
    return first :: others)
  <|> (char '0' *> pure ['0'])

/-- The value of digits in a base. -/
def valueIn (base : Nat) (digits : List Char) : Nat :=
  digits.foldl (fun n c => base * n + (Json.hexValue? c).getD 0) 0

/-- An integer of 64 bits. -/
def bounded (n : Int) : Reader Int :=
  let bound : Int := Nat.pow 2 63
  if -bound ≤ n ∧ n < bound then pure n else failure

/-- Whether a character is a digit in a base up to sixteen. -/
def isDigitIn (base : Nat) (c : Char) : Bool := (Json.hexValue? c).any (· < base)

/-- An integer behind the mark of its base. -/
def marked (mark : Char) (base : Nat) : Reader Int := do
  char '0'
  char mark
  bounded (valueIn base (← digitsOf (isDigitIn base)))

/-- A decimal integer. -/
def decimal : Reader Int := do
  let negative ← sign
  let n : Int := valueIn 10 (← wholeDigits)
  bounded (if negative then -n else n)

/-- An integer. -/
def integer : Reader Int := marked 'x' 16 <|> marked 'o' 8 <|> marked 'b' 2 <|> decimal

/-! ### Other numbers -/

/-- The exponent of a number. -/
def exponent : Reader Int := do
  char 'e' <|> char 'E'
  let negative ← sign
  let n : Int := valueIn 10 (← digitsOf Char.isDigit)
  return if negative then -n else n

/-- Whether `significand · 10^power` is beyond the largest double when it is rounded. -/
def isTooLarge (significand : Nat) (power : Int) : Bool :=
  let places : Int := (Nat.toDigits 10 significand).length + power
  if significand = 0 ∨ places < 300 then false
  else if 320 < places then true
  else
    (Decimal.roundRatio (significand * Nat.pow 10 power.toNat) (Nat.pow 10 (-power).toNat)).isNone

/-- A number with a point or an exponent. -/
def finiteReal : Reader Unit := do
  let negative ← sign
  let whole ← wholeDigits
  let fraction ← optional (char '.' *> digitsOf Char.isDigit)
  let power ← optional exponent
  if fraction.isNone && power.isNone then failure
  let behind := fraction.getD []
  let significand := valueIn 10 (whole ++ behind)
  if !negative && isTooLarge significand (power.getD 0 - behind.length) then failure

/-- A number that is no integer. -/
def real : Reader Unit := finiteReal <|> (sign *> (text "inf" <|> text "nan"))

/-! ### Dates -/

/-- A number of `size` digits from `least` to `greatest`. -/
def field (size least greatest : Nat) : Reader Nat := do
  let n := valueIn 10 (← exactly size Char.isDigit)
  if least ≤ n ∧ n ≤ greatest then return n else failure

/-- A date of the calendar. -/
def date : Reader Unit := do
  let year ← field 4 0 9999
  char '-'
  let month ← field 2 1 12
  char '-'
  let day ← field 2 1 31
  if Timestamp.daysIn year month < day then failure

/-- A time of day. -/
def timeOfDay : Reader Unit := do
  let _ ← field 2 0 23
  char ':'
  let _ ← field 2 0 59
  char ':'
  let _ ← field 2 0 60
  discard (optional (char '.' *> someRun Char.isDigit))

/-- An offset from UTC. -/
def offset : Reader Unit :=
  char 'Z' <|> char 'z' <|> do
    char '+' <|> char '-'
    let _ ← field 2 0 23
    char ':'
    discard (field 2 0 59)

/-- A date, a time of day, or both. -/
def moment : Reader Unit :=
  (do
    date
    discard (optional do
      char 'T' <|> char 't' <|> char ' '
      timeOfDay
      discard (optional offset)))
  <|> timeOfDay

end BilingualLessons.Toml
