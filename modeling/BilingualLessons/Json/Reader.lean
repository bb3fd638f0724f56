import BilingualLessons.Json.Value
import BilingualLessons.Text.Blank

namespace BilingualLessons.Json

/-!
# Reading JSON text

A strict reader: no comments, no trailing commas, no control characters inside strings, escapes
of surrogates only in pairs, and at most 127 containers inside one another.

* `Reader` — reads something off the front of a text.
* `readValue` — one value, at a given remaining depth.
* `read` — a whole text.
* `ReadFault.line` — the line of a fault.
-/

/-- Why a text is not JSON. -/
inductive ReadReason where
  | endOfText
  | expectedValue
  | expectedKey
  | expectedColon
  | expectedCommaOrEnd
  | trailingComma
  | trailingCharacters
  | invalidNumber
  | numberOutOfRange
  | controlCharacter
  | invalidEscape
  | loneSurrogate
  | tooDeep
deriving DecidableEq, Repr

/-- The words of a reason. -/
def ReadReason.message : ReadReason → String
  | .endOfText => "unexpected end of text"
  | .expectedValue => "expected value"
  | .expectedKey => "key must be a string"
  | .expectedColon => "expected colon"
  | .expectedCommaOrEnd => "expected comma or end of container"
  | .trailingComma => "trailing comma"
  | .trailingCharacters => "trailing characters"
  | .invalidNumber => "invalid number"
  | .numberOutOfRange => "number out of range"
  | .controlCharacter => "control character in a string"
  | .invalidEscape => "invalid escape"
  | .loneSurrogate => "lone surrogate in an escape"
  | .tooDeep => "too many nested containers"

/-- A reason and the text behind the offending character. -/
structure ReadFault where
  reason : ReadReason
  rest : List Char
deriving DecidableEq, Repr

/-- The line of a fault in `source`: one more than the line ends up to and including the offending
    character. -/
def ReadFault.line (source : List Char) (fault : ReadFault) : Nat :=
  1 + (Text.lineEnds source - Text.lineEnds fault.rest)

/-- Reads an `α` off the front of a text and hands back the rest. -/
abbrev Reader (α : Type) := List Char → Except ReadFault (α × List Char)

/-- The blanks that JSON allows between its parts. -/
def isSpace (c : Char) : Bool :=
  c = ' ' || c = '\n' || c = '\t' || c = '\r'

/-- The text behind the leading blanks. -/
def skipSpace (cs : List Char) : List Char := cs.dropWhile isSpace

/-- The fault at the first character of `cs`, or at the end of the text. -/
def faultAt (reason : ReadReason) : List Char → ReadFault
  | [] => ⟨.endOfText, []⟩
  | _ :: rest => ⟨reason, rest⟩

/-! ### Numbers -/

/-- The greatest significand that is kept: further digits only move the exponent. -/
def maxSignificand : Nat := Nat.pow 2 64 - 1

/-- The value of a digit. -/
def digitValue (c : Char) : Nat := c.toNat - '0'.toNat

/-- The significand of the digits before the point and the number of digits left out. -/
def readSignificand (digits : List Char) : Nat × Nat :=
  digits.foldl
    (fun (kept, dropped) c =>
      let next := kept * 10 + digitValue c
      if dropped = 0 ∧ next ≤ maxSignificand then (next, 0) else (kept, dropped + 1))
    (0, 0)

/-- The significand with the digits behind the point and the number of these that it took up. -/
def readFraction (significand : Nat) : List Char → Nat × Nat
  | [] => (significand, 0)
  | c :: rest =>
    let next := significand * 10 + digitValue c
    if next ≤ maxSignificand then
      let (m, taken) := readFraction next rest
      (m, taken + 1)
    else (significand, 0)

/-- The parts of a number as written. -/
structure NumberText where
  negative : Bool
  digits : List Char
  fraction : Option (List Char)
  exponent : Option Int

/-- The number that is written. Without point and exponent it is an integer if it lies between
    `-2^63` and `2^64 - 1`; negative zero is a double. -/
def NumberText.value (t : NumberText) : Option Number :=
  let (significand, dropped) := readSignificand t.digits
  let real (m : Nat) (e : Int) := (Decimal.Binary64.ofDecimal t.negative m e).map Number.real
  match t.fraction, t.exponent with
  | none, none =>
    if dropped ≠ 0 then real significand dropped
    else if !t.negative then some (.whole significand)
    else if significand = 0 ∨ Nat.pow 2 63 < significand then real significand 0
    else some (.whole (-(significand : Int)))
  | fraction, exponent =>
    let (m, taken) := readFraction significand (fraction.getD [])
    real m ((dropped : Int) - taken + exponent.getD 0)

/-- A nonempty run of digits. -/
def readDigits : Reader (List Char) := fun cs =>
  match cs.takeWhile Char.isDigit with
  | [] => .error (faultAt .invalidNumber cs)
  | digits => .ok (digits, cs.dropWhile Char.isDigit)

/-- The digits before the point: a zero stands alone. -/
def readWhole : Reader (List Char)
  | '0' :: d :: rest =>
    if d.isDigit then .error ⟨.invalidNumber, rest⟩ else .ok (['0'], d :: rest)
  | cs => readDigits cs

/-- The part behind a point, if there is a point. -/
def readPoint : Reader (Option (List Char))
  | '.' :: rest => (readDigits rest).map fun (digits, rest) => (some digits, rest)
  | cs => .ok (none, cs)

/-- The exponent behind `e`, with its sign. -/
def readPower (cs : List Char) : Except ReadFault (Option Int × List Char) := do
  let (negative, cs) := match cs with
    | '+' :: rest => (false, rest)
    | '-' :: rest => (true, rest)
    | cs => (false, cs)
  let (digits, rest) ← readDigits cs
  let power : Nat := digits.foldl (fun n c => n * 10 + digitValue c) 0
  return (some (if negative then -(power : Int) else power), rest)

/-- The exponent, if there is one. -/
def readExponent : Reader (Option Int)
  | 'e' :: rest => readPower rest
  | 'E' :: rest => readPower rest
  | cs => .ok (none, cs)

/-- A number behind its sign. -/
def readNumber (negative : Bool) : Reader Json := fun cs => do
  let (digits, cs) ← readWhole cs
  let (fraction, cs) ← readPoint cs
  let (exponent, cs) ← readExponent cs
  match NumberText.value ⟨negative, digits, fraction, exponent⟩ with
  | some n => return (.number n, cs)
  | none => .error ⟨.numberOutOfRange, cs⟩

/-! ### Strings -/

/-- The value of a hexadecimal digit. -/
def hexValue? (c : Char) : Option Nat :=
  if c.isDigit then some (c.toNat - '0'.toNat)
  else if 'a' ≤ c ∧ c ≤ 'f' then some (c.toNat - 'a'.toNat + 10)
  else if 'A' ≤ c ∧ c ≤ 'F' then some (c.toNat - 'A'.toNat + 10)
  else none

/-- The text behind its first `n` bytes. A character that they end in goes with them. -/
def dropBytes (n : Nat) : List Char → List Char
  | [] => []
  | c :: rest => if n = 0 then c :: rest else dropBytes (n - c.utf8Size) rest

/-- The number of hexadecimal digits of an escape. -/
def hexWidth : Nat := 4

/-- The fault of an escape with anything but digits in it, which is as many bytes long as it ought
    to have digits. -/
def hexFault (cs : List Char) : ReadFault :=
  let size := (cs.take hexWidth).foldl (fun size c => size + c.utf8Size) 0
  if size < hexWidth then ⟨.endOfText, []⟩
  else ⟨.invalidEscape, dropBytes hexWidth cs⟩

/-- The four hexadecimal digits of an escape. -/
def readHex : Reader Nat := fun cs =>
  match (cs.take hexWidth).mapM hexValue? with
  | some [a, b, c, d] => .ok (((a * 16 + b) * 16 + c) * 16 + d, cs.drop hexWidth)
  | _ => .error (hexFault cs)

/-- The character behind `\u`: one code unit, or a leading surrogate followed by the escape of a
    trailing one. -/
def readCodePoint : Reader Char := fun cs => do
  let (n, cs) ← readHex cs
  if n < 0xD800 ∨ 0xDFFF < n then
    return (Char.ofNat n, cs)
  else if 0xDC00 ≤ n then
    .error ⟨.loneSurrogate, cs⟩
  else
    match cs with
    | '\\' :: 'u' :: rest =>
      let (low, rest) ← readHex rest
      if 0xDC00 ≤ low ∧ low ≤ 0xDFFF then
        return (Char.ofNat (0x10000 + (n - 0xD800) * 0x400 + (low - 0xDC00)), rest)
      else .error ⟨.loneSurrogate, rest⟩
    | '\\' :: rest => .error (faultAt .loneSurrogate rest)
    | cs => .error (faultAt .loneSurrogate cs)

/-- The character of an escape, behind the backslash. -/
def readEscape : Reader Char
  | '"' :: rest => .ok ('"', rest)
  | '\\' :: rest => .ok ('\\', rest)
  | '/' :: rest => .ok ('/', rest)
  | 'b' :: rest => .ok ('\x08', rest)
  | 'f' :: rest => .ok ('\x0c', rest)
  | 'n' :: rest => .ok ('\n', rest)
  | 'r' :: rest => .ok ('\r', rest)
  | 't' :: rest => .ok ('\t', rest)
  | 'u' :: rest => readCodePoint rest
  | cs => .error (faultAt .invalidEscape cs)

/-- The characters of a string, behind the opening quote, at most `fuel` of them. `done` holds those
    already read, the last one first. -/
def readCharacters : Nat → List Char → Reader String
  | 0, _, cs => .error (faultAt .endOfText cs)
  | fuel + 1, done, cs =>
    match cs with
    | [] => .error ⟨.endOfText, []⟩
    | '"' :: rest => .ok (String.ofList done.reverse, rest)
    | '\\' :: rest => do
      let (c, rest) ← readEscape rest
      readCharacters fuel (c :: done) rest
    | c :: rest =>
      if c.toNat < 0x20 then .error ⟨.controlCharacter, rest⟩
      else readCharacters fuel (c :: done) rest

/-- A string of fewer than `limit` characters, behind its opening quote. -/
def readString (limit : Nat) : Reader String := readCharacters limit []

/-! ### Containers and values -/

/-- The rest of a list behind its opening bracket, at most `fuel` elements. `first` tells that no
    element has been read; `done` holds the elements read, the last one first. -/
def readItems (item : Reader Json) : Nat → Bool → List Json → Reader (List Json)
  | 0, _, _, cs => .error (faultAt .endOfText cs)
  | fuel + 1, first, done, cs =>
    let next (cs : List Char) : Except ReadFault (List Json × List Char) := do
      let (v, rest) ← item cs
      readItems item fuel false (v :: done) rest
    match skipSpace cs with
    | ']' :: rest => .ok (done.reverse, rest)
    | ',' :: rest =>
      if first then next (',' :: rest)
      else
        match skipSpace rest with
        | ']' :: rest => .error ⟨.trailingComma, rest⟩
        | cs => next cs
    | cs => if first then next cs else .error (faultAt .expectedCommaOrEnd cs)

/-- A key of fewer than `limit` characters, a colon and a value. -/
def readMember (limit : Nat) (item : Reader Json) : Reader (String × Json)
  | '"' :: cs => do
    let (key, cs) ← readString limit cs
    match skipSpace cs with
    | ':' :: cs => do
      let (v, rest) ← item cs
      return ((key, v), rest)
    | cs => .error (faultAt .expectedColon cs)
  | cs => .error (faultAt .expectedKey cs)

/-- The rest of an object behind its opening brace, as in `readItems`, with `member` to read a
    field. A later field replaces an earlier one of the same key. -/
def readFields (member : Reader (String × Json)) : Nat → Bool → Fields → Reader Fields
  | 0, _, _, cs => .error (faultAt .endOfText cs)
  | fuel + 1, first, done, cs =>
    let next (cs : List Char) : Except ReadFault (Fields × List Char) := do
      let ((key, v), rest) ← member cs
      readFields member fuel false (done.insert key v) rest
    match skipSpace cs with
    | '}' :: rest => .ok (done, rest)
    | ',' :: rest =>
      if first then next (',' :: rest)
      else
        match skipSpace rest with
        | '}' :: rest => .error ⟨.trailingComma, rest⟩
        | cs => next cs
    | cs => if first then next cs else .error (faultAt .expectedCommaOrEnd cs)

/-- The rest of a literal such as `true`. -/
def readLiteral (v : Json) : List Char → Reader Json
  | [], cs => .ok (v, cs)
  | c :: wanted, cs =>
    match cs with
    | d :: rest => if c = d then readLiteral v wanted rest else .error ⟨.expectedValue, rest⟩
    | [] => .error ⟨.endOfText, []⟩

/-- The number of containers that may stand inside one another. -/
def maxContainers : Nat := 127

/-- One value with the blanks before it, in a text of fewer than `limit` characters. `depth` more
    containers may be opened. -/
def readValue (limit depth : Nat) : Reader Json := fun cs =>
  match skipSpace cs with
  | 'n' :: rest => readLiteral .null ['u', 'l', 'l'] rest
  | 't' :: rest => readLiteral (.bool true) ['r', 'u', 'e'] rest
  | 'f' :: rest => readLiteral (.bool false) ['a', 'l', 's', 'e'] rest
  | '-' :: rest => readNumber true rest
  | '"' :: rest => (readString limit rest).map fun (s, rest) => (.string s, rest)
  | '[' :: rest =>
    match depth with
    | 0 => .error ⟨.tooDeep, rest⟩
    | depth + 1 => do
      let (items, rest) ← readItems (readValue limit depth) limit true [] rest
      return (.array items, rest)
  | '{' :: rest =>
    match depth with
    | 0 => .error ⟨.tooDeep, rest⟩
    | depth + 1 => do
      let (fields, rest) ←
        readFields (readMember limit (readValue limit depth)) limit true [] rest
      return (.object fields, rest)
  | cs =>
    match cs with
    | c :: _ => if c.isDigit then readNumber false cs else .error (faultAt .expectedValue cs)
    | [] => .error ⟨.endOfText, []⟩

/-- The value that a whole text holds, between blanks. -/
def read (source : List Char) : Except ReadFault Json := do
  let (v, rest) ← readValue (source.length + 1) maxContainers source
  match skipSpace rest with
  | [] => return v
  | cs => .error (faultAt .trailingCharacters cs)

end BilingualLessons.Json
