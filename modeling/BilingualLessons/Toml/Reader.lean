namespace BilingualLessons.Toml

/-!
# Reading the front of a text

* `Reader` — reads something off the front of a text, or fails; of two readers tried one after
  the other the second starts where the first did.
* `satisfy`, `char`, `text`, `run` — single characters, given texts, runs of characters.
* `repeated`, `separated` — one thing several times.
* `blanks`, `newline`, `comment`, `gap` — what may stand between the parts of a document.
-/

/-- Reads an `α` off the front of a text. -/
abbrev Reader (α : Type) := StateT (List Char) Option α

/-- A character that passes. -/
def satisfy (p : Char → Bool) : Reader Char
  | [] => none
  | c :: rest => if p c then some (c, rest) else none

/-- The given character. -/
def char (c : Char) : Reader Unit := discard (satisfy (· == c))

/-- The given characters. -/
def text (wanted : String) : Reader Unit := wanted.toList.forM char

/-- The longest run of characters that pass. -/
def run (p : Char → Bool) : Reader (List Char) := fun cs => some (cs.takeWhile p, cs.dropWhile p)

/-- The longest run of characters that pass, with one at least. -/
def someRun (p : Char → Bool) : Reader (List Char) := do
  return (← satisfy p) :: (← run p)

/-- Exactly `n` characters that pass. -/
def exactly (n : Nat) (p : Char → Bool) : Reader (List Char) := fun cs =>
  let front := cs.take n
  if front.length = n ∧ front.all p then some (front, cs.drop n) else none

/-- The end of the text. -/
def atEnd : Reader Unit := fun cs => if cs.isEmpty then some ((), cs) else none

/-- What a reader reads as often as it succeeds, at most `fuel` times. -/
def repeatedUpTo (reader : Reader α) : Nat → Reader (List α)
  | 0 => failure
  | fuel + 1 =>
    (do
      let a ← reader
      let rest ← repeatedUpTo reader fuel
      return a :: rest)
    <|> pure []

/-- What a reader reads as often as it succeeds. The reader has to take something every time. -/
def repeated (reader : Reader α) : Reader (List α) := fun cs =>
  repeatedUpTo reader (cs.length + 1) cs

/-- One or more things with a mark between them. -/
def separated (mark : Reader Unit) (reader : Reader α) : Reader (List α) := do
  let first ← reader
  let others ← repeated (mark *> reader)
  return first :: others

/-! ### Between the parts -/

/-- Whether a character is a space or a tab. -/
def isBlank (c : Char) : Bool := c == ' ' || c == '\t'

/-- Whether a character may stand in a comment, and in a string if it ends neither that nor an
    escape: a tab, or no control character. -/
def isPlain (c : Char) : Bool := c == '\t' || (0x20 ≤ c.toNat && c.toNat != 0x7F)

/-- Spaces and tabs. -/
def blanks : Reader Unit := discard (run isBlank)

/-- The end of a line. -/
def newline : Reader Unit := char '\n' <|> text "\x0d\n"

/-- A comment, without the end of its line. -/
def comment : Reader Unit := char '#' *> discard (run isPlain)

/-- Blanks, comments and line ends, in any number. -/
def gap : Reader Unit :=
  discard (repeated (discard (satisfy isBlank) <|> newline <|> comment *> newline))

/-- What may follow on a line, up to the next line or the end of the text. -/
def restOfLine : Reader Unit := do
  blanks
  let _ ← optional comment
  newline <|> atEnd

end BilingualLessons.Toml
