import BilingualLessons.Json.Value
import BilingualLessons.Decimal.Shortest

namespace BilingualLessons.Json

/-!
# Writing JSON text

* `Number.text` — a number as it is written.
* `quote` — a string with its escapes.
* `compact` — a value on one line.
* `pretty` — a value over several lines, two columns per level.
-/

/-- A number as it is written: integers in decimal, doubles so that they read back. -/
def numberText : Number → String
  | .whole i => toString i
  | .real x => Decimal.exactText x

/-- A digit of a hexadecimal escape. -/
def hexDigit (n : Nat) : Char :=
  if n < 10 then Char.ofNat ('0'.toNat + n) else Char.ofNat ('a'.toNat + (n - 10))

/-- The escape of a character in a string. Only quotes, backslashes and control characters have one
    of their own. -/
def escapeChar (c : Char) : List Char :=
  match c with
  | '"' => ['\\', '"']
  | '\\' => ['\\', '\\']
  | '\n' => ['\\', 'n']
  | '\r' => ['\\', 'r']
  | '\t' => ['\\', 't']
  | '\x08' => ['\\', 'b']
  | '\x0c' => ['\\', 'f']
  | c =>
    if c.toNat < 0x20 then
      ['\\', 'u', '0', '0', hexDigit (c.toNat / 16), hexDigit (c.toNat % 16)]
    else [c]

/-- A string in quotes. -/
def quote (s : String) : String :=
  String.ofList ('"' :: s.toList.flatMap escapeChar ++ ['"'])

mutual

/-- `done` with a value behind it, on one line without blanks. -/
def compactOnto (done : String) : Json → String
  | .null => done ++ "null"
  | .bool b => done ++ (if b then "true" else "false")
  | .number n => done ++ numberText n
  | .string s => done ++ quote s
  | .array items => compactItems (done ++ "[") items ++ "]"
  | .object fields => compactFields (done ++ "\x7b") fields ++ "\x7d"

/-- `done` with elements between commas behind it. -/
def compactItems (done : String) : List Json → String
  | [] => done
  | [v] => compactOnto done v
  | v :: w :: rest => compactItems (compactOnto done v ++ ",") (w :: rest)

/-- `done` with fields between commas behind it. -/
def compactFields (done : String) : List (String × Json) → String
  | [] => done
  | [(k, v)] => compactOnto (done ++ quote k ++ ":") v
  | (k, v) :: field :: rest =>
    compactFields (compactOnto (done ++ quote k ++ ":") v ++ ",") (field :: rest)

end

/-- A value on one line without blanks. -/
def compact (v : Json) : String := compactOnto "" v

/-- The start of a line at a level. -/
def newLine (level : Nat) : String :=
  String.ofList ('\n' :: List.replicate (2 * level) ' ')

mutual

/-- `done` with a value over several lines behind it; `level` is that of the line it starts on. -/
def prettyOnto (level : Nat) (done : String) : Json → String
  | .array [] => done ++ "[]"
  | .object [] => done ++ "\x7b\x7d"
  | .array (v :: items) =>
    prettyItems (level + 1) (done ++ "[") (v :: items) ++ newLine level ++ "]"
  | .object (field :: fields) =>
    prettyFields (level + 1) (done ++ "\x7b") (field :: fields) ++ newLine level ++ "\x7d"
  | v => compactOnto done v

/-- `done` with elements on lines of their own behind it. -/
def prettyItems (level : Nat) (done : String) : List Json → String
  | [] => done
  | [v] => prettyOnto level (done ++ newLine level) v
  | v :: w :: rest =>
    prettyItems level (prettyOnto level (done ++ newLine level) v ++ ",") (w :: rest)

/-- `done` with fields on lines of their own behind it. -/
def prettyFields (level : Nat) (done : String) : List (String × Json) → String
  | [] => done
  | [(k, v)] => prettyOnto level (done ++ newLine level ++ quote k ++ ": ") v
  | (k, v) :: field :: rest =>
    prettyFields level (prettyOnto level (done ++ newLine level ++ quote k ++ ": ") v ++ ",")
      (field :: rest)

end

/-- A value over several lines, two columns per level. -/
def pretty (v : Json) : String := prettyOnto 0 "" v

end BilingualLessons.Json
