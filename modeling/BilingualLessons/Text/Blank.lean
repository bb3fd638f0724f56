namespace BilingualLessons.Text

/-!
# Blank characters

Which characters separate words, and what is left of a text without them.

* `isBlank` — the characters with the Unicode property White_Space.
* `trim` — a text without the blanks at its two ends.
* `words` — the maximal runs of characters that are not blank.
* `isBlankText` — a text that holds nothing but blanks.
-/

/-- The 25 characters with the Unicode property White_Space. -/
def isBlank (c : Char) : Bool :=
  let n := c.toNat
  (0x9 ≤ n && n ≤ 0xD) || n == 0x20 || n == 0x85 || n == 0xA0 || n == 0x1680 ||
    (0x2000 ≤ n && n ≤ 0x200A) || n == 0x2028 || n == 0x2029 || n == 0x202F ||
    n == 0x205F || n == 0x3000

/-- `cs` without the blanks at its end. -/
def trimEnd (cs : List Char) : List Char :=
  (cs.reverse.dropWhile isBlank).reverse

/-- `cs` without the blanks at its two ends. -/
def trim (cs : List Char) : List Char :=
  trimEnd (cs.dropWhile isBlank)

/-- The maximal runs of characters that are not blank, from left to right. -/
def words : List Char → List (List Char)
  | [] => []
  | c :: cs =>
    if isBlank c then words cs
    else
      match cs, words cs with
      | d :: _, w :: ws => if isBlank d then [c] :: w :: ws else (c :: w) :: ws
      | _, ws => [c] :: ws

/-- Whether `s` holds nothing but blanks. The empty text does. -/
def isBlankText (s : String) : Bool :=
  s.toList.all isBlank

/-- How many line ends `cs` holds. -/
def lineEnds (cs : List Char) : Nat :=
  cs.count '\n'

theorem lineEnds_append (cs ds : List Char) : lineEnds (cs ++ ds) = lineEnds cs + lineEnds ds :=
  List.count_append

end BilingualLessons.Text
