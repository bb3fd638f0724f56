import BilingualLessons.Record.Decode
import BilingualLessons.Text.Blank

namespace BilingualLessons

/-!
# Points in time

* `Timestamp` — seconds since the start of 1970 in UTC, and a fraction of a second.
* `Timestamp.parse` — a date and a time of day with an offset.
* `Timestamp.text` — the same in UTC.
-/

/-- A point in time. The fraction of a leap second is a second or more. -/
structure Timestamp where
  seconds : Int
  nanoseconds : Nat := 0
deriving DecidableEq, Repr

/-- Why a text is not a point in time. -/
inductive TimestampFault where
  | endOfText
  | invalid
  | outOfRange
  | trailing
  /-- The time lies outside the calendar once it is moved to UTC. -/
  | impossible
deriving DecidableEq, Repr

/-- The words for a fault. -/
def TimestampFault.message : TimestampFault → String
  | .endOfText => "premature end of input"
  | .invalid => "input contains invalid characters"
  | .outOfRange => "input is out of range"
  | .trailing => "trailing input"
  | .impossible => "no possible date and time matching input"

namespace Timestamp

/-- The nanoseconds of a second. -/
def billion : Nat := 1000000000

/-! ### The calendar -/

/-- Whether a year has 366 days. -/
def isLeap (year : Int) : Bool :=
  year % 4 == 0 && (year % 100 != 0 || year % 400 == 0)

/-- The number of days of a month. -/
def daysIn (year : Int) (month : Nat) : Nat :=
  match month with
  | 2 => if isLeap year then 29 else 28
  | 4 | 6 | 9 | 11 => 30
  | _ => 31

/-- The number of days from the start of 1970 to a date. Years are counted from March, so that the
    leap day is the last of a year. -/
def dayOf (year : Int) (month day : Nat) : Int :=
  let y := if month ≤ 2 then year - 1 else year
  let m : Int := (month + 9) % 12
  365 * y + y / 4 - y / 100 + y / 400 + (153 * m + 2) / 5 + day - 719469

/-- The date a number of days after the start of 1970. -/
def dateOf (day : Int) : Int × Nat × Nat :=
  let shifted := day + 719468
  let era := shifted / 146097
  let inEra := shifted % 146097
  let yearInEra := (inEra - inEra / 1460 + inEra / 36524 - inEra / 146096) / 365
  let inYear := inEra - (365 * yearInEra + yearInEra / 4 - yearInEra / 100)
  let m := (5 * inYear + 2) / 153
  let dayOfMonth := inYear - (153 * m + 2) / 5 + 1
  let month := if m < 10 then m + 3 else m - 9
  let year := 400 * era + yearInEra + (if month ≤ 2 then 1 else 0)
  (year, month.toNat, dayOfMonth.toNat)

/-- The first year of the calendar. -/
def firstYear : Int := -262143

/-- The last year of the calendar. -/
def lastYear : Int := 262142

/-- The number of seconds of a day. -/
def dayLength : Int := 86400

/-! ### Reading -/

/-- Reads something off the front of a text. -/
abbrev Reader (α : Type) := StateT (List Char) (Except TimestampFault) α

/-- The value of decimal digits. -/
def valueOf (digits : List Char) : Nat :=
  digits.foldl (fun n c => 10 * n + (c.toNat - '0'.toNat)) 0

/-- The value of the digits in front of `rest`, which there have to be. -/
def valueBefore (rest : List Char) : List Char → Except TimestampFault (Nat × List Char)
  | [] => .error (if rest.isEmpty then .endOfText else .invalid)
  | digits => .ok (valueOf digits, rest.drop digits.length)

/-- Fails unless a value lies between two bounds. -/
def within (low high n : Int) : Reader Unit := fun cs =>
  if low ≤ n ∧ n ≤ high then .ok ((), cs) else .error .outOfRange

/-- A number of at most `most` digits, behind blanks. -/
def number (most : Nat) : Reader Nat := fun cs =>
  let cs := cs.dropWhile Text.isBlank
  valueBefore cs ((cs.take most).takeWhile Char.isDigit)

/-- A number of at most two digits that lies between two bounds. -/
def field (low high : Nat) : Reader Nat := do
  let n ← number 2
  within low high n
  return n

/-- A year, behind blanks: at most four digits, or any number of them behind a sign. -/
def year : Reader Int := do
  let signed (sign : Int) (rest : List Char) : Reader Int := do
    set rest
    let n ← fun cs => valueBefore cs (cs.takeWhile Char.isDigit)
    let bound : Int := Nat.pow 2 31
    within (-bound) (bound - 1) (sign * n)
    return sign * n
  match (← get).dropWhile Text.isBlank with
  | '-' :: rest => signed (-1) rest
  | '+' :: rest => signed 1 rest
  | _ => number 4

/-- One of some characters. -/
def oneOf (allowed : List Char) : Reader Char
  | [] => .error .endOfText
  | c :: rest => if allowed.contains c then .ok (c, rest) else .error .invalid

/-- One of some characters, behind blanks. -/
def mark (allowed : List Char) : Reader Char := fun cs => oneOf allowed (cs.dropWhile Text.isBlank)

/-- The digits behind a point as billionths; more than nine do not count. -/
def fraction : Reader Nat
  | '.' :: rest => do
    let digits := rest.takeWhile Char.isDigit
    let kept := digits.take 9
    let (n, _) ← valueBefore rest kept
    return (n * Nat.pow 10 (9 - kept.length), rest.drop digits.length)
  | cs => .ok (0, cs)

/-- Two digits. -/
def twoDigits : Reader Nat
  | a :: b :: rest =>
    if a.isDigit && b.isDigit then .ok (valueOf [a, b], rest) else .error .invalid
  | [c] => .error (if c.utf8Size = 1 then .endOfText else .invalid)
  | [] => .error .endOfText

/-- Whether a character may stand between the hours and the minutes of an offset. -/
def isOffsetGap (c : Char) : Bool := c == ':' || Text.isBlank c

/-- The offset behind its sign, in seconds. -/
def signedOffset (sign : Int) : Reader Int := do
  let hours ← twoDigits
  modify (·.dropWhile isOffsetGap)
  let minutes ← twoDigits
  within 0 59 minutes
  return sign * (3600 * hours + 60 * minutes)

/-- The offset from UTC in seconds, behind blanks: `UTC` in any case, `Z`, or hours and minutes. -/
def offset : Reader Int := do
  modify (·.dropWhile Text.isBlank)
  let cs ← get
  if (cs.take 3).map Char.toLower = ['u', 't', 'c'] then
    set (cs.drop 3)
    return 0
  match ← mark ['Z', 'z', '+', '-', '−'] with
  | 'Z' | 'z' => return 0
  | '+' => signedOffset 1
  | _ => signedOffset (-1)

/-- A date and a time of day as they are written, and the offset from UTC in seconds. -/
structure Written where
  year : Int
  month : Nat
  day : Nat
  hour : Nat
  minute : Nat
  second : Nat
  nanoseconds : Nat
  offset : Int

/-- A date, a time of day and an offset. Each number is checked as soon as it is read. -/
def written : Reader Written := do
  let year ← year
  let _ ← mark ['-']
  let month ← field 1 12
  let _ ← mark ['-']
  let day ← field 1 31
  let _ ← oneOf ['T', 't', ' ']
  let hour ← field 0 23
  let _ ← mark [':']
  let minute ← field 0 59
  let _ ← mark [':']
  let second ← field 0 60
  let nanoseconds ← fraction
  let offset ← offset
  return { year, month, day, hour, minute, second, nanoseconds, offset }

/-- The point in time that is written. The date and the offset have to exist, and the calendar has
    to hold the date in UTC too. -/
def Written.resolve (w : Written) : Except TimestampFault Timestamp := do
  if w.year < firstYear ∨ lastYear < w.year ∨ daysIn w.year w.month < w.day ∨
      w.offset ≤ -dayLength ∨ dayLength ≤ w.offset then
    throw .outOfRange
  let isExtra := w.second = 60
  let inDay : Int := 3600 * w.hour + 60 * w.minute + (if isExtra then 59 else w.second)
  let seconds := dayLength * dayOf w.year w.month w.day + inDay - w.offset
  if seconds < dayLength * dayOf firstYear 1 1 ∨ dayLength * dayOf (lastYear + 1) 1 1 ≤ seconds then
    throw .impossible
  return ⟨seconds, w.nanoseconds + (if isExtra then billion else 0)⟩

/-- The point in time that a text stands for. -/
def parse (s : String) : Except TimestampFault Timestamp := do
  let (w, rest) ← written s.toList
  if rest.all Text.isBlank then w.resolve else throw .trailing

/-! ### Writing -/

/-- A number in at least `width` digits. -/
def padded (width n : Nat) : String :=
  let digits := Nat.toDigits 10 n
  String.ofList (List.replicate (width - digits.length) '0' ++ digits)

/-- A fraction of a second in three, six or nine digits; none if it is zero. -/
def fractionText (nanoseconds : Nat) : String :=
  if nanoseconds = 0 then ""
  else if nanoseconds % 1000000 = 0 then "." ++ padded 3 (nanoseconds / 1000000)
  else if nanoseconds % 1000 = 0 then "." ++ padded 6 (nanoseconds / 1000)
  else "." ++ padded 9 nanoseconds

/-- A year in at least four digits, signed where four do not do. -/
def yearText (year : Int) : String :=
  if 0 ≤ year ∧ year ≤ 9999 then padded 4 year.toNat
  else (if year < 0 then "-" else "+") ++ padded 4 year.natAbs

/-- A point in time in UTC. -/
def text (time : Timestamp) : String :=
  let (year, month, day) := dateOf (time.seconds / 86400)
  let inDay := (time.seconds % 86400).toNat
  let extra := time.nanoseconds / billion
  yearText year ++ "-" ++ padded 2 month ++ "-" ++ padded 2 day ++ "T" ++
    padded 2 (inDay / 3600) ++ ":" ++ padded 2 (inDay / 60 % 60) ++ ":" ++
    padded 2 (inDay % 60 + extra) ++ fractionText (time.nanoseconds % billion) ++ "Z"

/-- The point in time of a text value. -/
def decode : Record.Decoder Timestamp
  | .string s => (parse s).mapError fun fault => .unreadable fault.message
  | v => .error (.wrongType v .timestamp)

/-- The point in time as a text value. -/
def encode (time : Timestamp) : Json := .string time.text

end Timestamp

end BilingualLessons
