import BilingualLessons.Text.LetterCaseData

namespace BilingualLessons.Text

/-!
# Letter case

The full case mappings of the Unicode standard, those of one letter to several among them, without
the rules of single languages.

* `lowerChar`, `upperChar` — the other case of a character.
* `lowerText` — a text in lower case; a sigma at the end of a word has a form of its own.
* `capitalize` — a text with its first character in upper case.
-/

/-- Whether the run holds the code point. -/
def CaseRun.holds (run : CaseRun) (n : Nat) : Bool :=
  run.first ≤ n && n ≤ run.last && (n - run.first) % run.step == 0

/-- The code point at the distance of the run that holds `n`; `n` itself where none does. -/
def mapCase (runs : List CaseRun) (n : Nat) : Nat :=
  match runs.find? (·.holds n) with
  | some run => ((n : Int) + run.distance).toNat
  | none => n

/-- Whether one of the ranges holds the code point. -/
def inRanges (ranges : List (Nat × Nat)) (n : Nat) : Bool :=
  ranges.any fun (first, last) => first ≤ n && n ≤ last

/-- The lower case of a character, where it does not hang on its neighbours. -/
def lowerChar (c : Char) : List Char :=
  if c.toNat < 0x80 then [c.toLower]
  else if c = 'İ' then ['i', Char.ofNat 0x307]
  else [Char.ofNat (mapCase lowerRuns c.toNat)]

/-- The upper case of a character. -/
def upperChar (c : Char) : List Char :=
  if c.toNat < 0x80 then [c.toUpper]
  else
    match upperExpansions.find? (·.1 == c.toNat) with
    | some (_, letters) => letters.map Char.ofNat
    | none => [Char.ofNat (mapCase upperRuns c.toNat)]

/-! ### Whole texts -/

/-- Whether a character has case. -/
def isCased (c : Char) : Bool := inRanges casedRanges c.toNat

/-- Whether a character is passed over when the next cased letter is sought. -/
def isCaseIgnorable (c : Char) : Bool := inRanges ignorableRanges c.toNat

/-- Whether the first character that is not passed over has case. -/
def startsCased (cs : List Char) : Bool :=
  match cs.dropWhile isCaseIgnorable with
  | c :: _ => isCased c
  | [] => false

/-- The lower case of `cs`. `afterCased` tells that a cased letter stands before them, with nothing
    but ignorable characters between. -/
def lowerFrom (afterCased : Bool) : List Char → List Char
  | [] => []
  | c :: rest =>
    let mapped :=
      if c = 'Σ' then (if afterCased && !startsCased rest then ['ς'] else ['σ'])
      else lowerChar c
    mapped ++ lowerFrom (if isCaseIgnorable c then afterCased else isCased c) rest

/-- A text in lower case. -/
def lowerText (s : String) : String :=
  String.ofList (lowerFrom false s.toList)

/-- A text with its first character in upper case. -/
def capitalize (s : String) : String :=
  match s.toList with
  | [] => ""
  | c :: rest => String.ofList (upperChar c ++ rest)

/-- Whether `part` stands somewhere in `whole`. The empty text stands everywhere. -/
def isInfix (part : List Char) : List Char → Bool
  | [] => part.isEmpty
  | c :: rest => part.isPrefixOf (c :: rest) || isInfix part rest

/-- `isInfix` on strings. -/
def occursIn (part whole : String) : Bool :=
  isInfix part.toList whole.toList

end BilingualLessons.Text
