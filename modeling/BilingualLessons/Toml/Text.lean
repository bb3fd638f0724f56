import BilingualLessons.Json.Reader
import BilingualLessons.Toml.Reader

namespace BilingualLessons.Toml

/-!
# Strings and keys

* `basicString`, `literalString` — strings on one line, with and without escapes.
* `longBasicString`, `longLiteralString` — strings of several lines.
* `key` — the names of a key, with points between them.
-/

/-- The character of some hexadecimal digits. -/
def codePoint (size : Nat) : Reader Char := do
  let digits ← exactly size fun c => (Json.hexValue? c).isSome
  let n := digits.foldl (fun n c => 16 * n + (Json.hexValue? c).getD 0) 0
  if n.isValidChar then return Char.ofNat n else failure

/-- The characters that an escape of one letter stands for. -/
def shortEscapes : List (Char × Char) :=
  [('b', '\x08'), ('t', '\t'), ('n', '\n'), ('f', '\x0c'), ('r', '\x0d'), ('"', '"'), ('\\', '\\')]

/-- The character of an escape. -/
def escape : Reader Char := do
  char '\\'
  match ← satisfy fun _ => true with
  | 'u' => codePoint 4
  | 'U' => codePoint 8
  | c =>
    match shortEscapes.lookup c with
    | some meant => return meant
    | none => failure

/-- A character that stands for itself in a string with escapes. -/
def basicCharacter : Reader Char := satisfy fun c => isPlain c && c != '"' && c != '\\'

/-- A character that stands for itself in a string without escapes. -/
def literalCharacter : Reader Char := satisfy fun c => isPlain c && c != '\''

/-- A string on one line, with escapes. -/
def basicString : Reader String := do
  char '"'
  let content ← repeated (basicCharacter <|> escape)
  char '"'
  return String.ofList content

/-- A string on one line, without escapes. -/
def literalString : Reader String := do
  char '\''
  let content ← repeated literalCharacter
  char '\''
  return String.ofList content

/-! ### Several lines -/

/-- Three of a quote. -/
def tripled (quote : Char) : Reader Unit := char quote *> char quote *> char quote

/-- The end of a long string with the quotes before it that belong to the string, two at most. -/
def longEnd (quote : Char) : Reader (List Char) :=
  (char quote *> char quote *> tripled quote *> pure [quote, quote]) <|>
    (char quote *> tripled quote *> pure [quote]) <|>
    (tripled quote *> pure [])

/-- One or two quotes inside a long string. -/
def innerQuotes (quote : Char) : Reader (List Char) := do
  let quotes ← someRun (· == quote)
  if quotes.length ≤ 2 then return quotes else failure

/-- A backslash at the end of a line, which takes away the blanks and line ends behind it. -/
def foldedLine : Reader (List Char) := do
  char '\\'
  blanks
  newline
  let _ ← repeated (discard (satisfy isBlank) <|> newline)
  return []

/-- A string of several lines whose content comes in pieces. A line end at the start does not
    count. -/
def longString (quote : Char) (piece : Reader (List Char)) : Reader String := do
  tripled quote
  let _ ← optional newline
  let content ← repeated
    (piece <|> (newline *> pure ['\n']) <|> innerQuotes quote)
  let last ← longEnd quote
  return String.ofList (content.flatten ++ last)

/-- A string of several lines, with escapes. -/
def longBasicString : Reader String :=
  longString '"' ((do return [← basicCharacter]) <|> foldedLine <|> (do return [← escape]))

/-- A string of several lines, without escapes. -/
def longLiteralString : Reader String :=
  longString '\'' do return [← literalCharacter]

/-- A string. -/
def anyString : Reader String :=
  longBasicString <|> basicString <|> longLiteralString <|> literalString

/-! ### Keys -/

/-- The number of containers that may stand inside one another, and of names in a key, is below
    this. -/
def depthLimit : Nat := 80

/-- Whether a character may stand in a name without quotes. -/
def isBare (c : Char) : Bool := c.isAlphanum || c == '_' || c == '-'

/-- One name. -/
def simpleKey : Reader String :=
  basicString <|> literalString <|> (do return String.ofList (← someRun isBare))

/-- The names of a key. -/
def key : Reader (List String) := do
  let names ← separated (char '.') (blanks *> simpleKey <* blanks)
  if names.length < depthLimit then return names else failure

end BilingualLessons.Toml
