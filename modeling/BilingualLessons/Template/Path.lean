namespace BilingualLessons.Template

/-!
# Paths

The names by which a template refers to values: `name`, `a.b.0`, `this`, `@index`.

* `segments` — the parts of a text between points.
* `splitFirst?` — the part before the first point and the part behind it.
* `isPath` — the texts that a tag may hold as a path.
-/

/-- The parts of `cs` between points, one more than there are points. -/
def segments : List Char → List (List Char)
  | [] => [[]]
  | c :: cs =>
    if c = '.' then [] :: segments cs
    else
      match segments cs with
      | s :: ss => (c :: s) :: ss
      | [] => [[c]]

/-- The text before the first point and the text behind it; none without a point. -/
def splitFirst? : List Char → Option (List Char × List Char)
  | [] => none
  | c :: cs =>
    if c = '.' then some ([], cs)
    else (splitFirst? cs).map fun (head, tail) => (c :: head, tail)

/-- An ASCII letter or the underscore. -/
def isNameStart (c : Char) : Bool :=
  c.isAlpha || c = '_'

/-- An ASCII letter, an ASCII digit or the underscore. -/
def isNameChar (c : Char) : Bool :=
  c.isAlphanum || c = '_'

/-- A name: it starts with a letter or underscore and goes on with these and digits. -/
def isName : List Char → Bool
  | [] => false
  | c :: cs => isNameStart c && cs.all isNameChar

/-- The first segment of a path: a name, with or without `@` before it. -/
def isFirstSegment : List Char → Bool
  | '@' :: cs => isName cs
  | cs => isName cs

/-- A later segment of a path: letters, digits and underscores, at least one. -/
def isLaterSegment (cs : List Char) : Bool :=
  !cs.isEmpty && cs.all isNameChar

/-- Whether a text is a path: a first segment, then later segments, with a point before each. -/
def isPath (text : String) : Bool :=
  match segments text.toList with
  | [] => false
  | first :: later => isFirstSegment first && later.all isLaterSegment

end BilingualLessons.Template
