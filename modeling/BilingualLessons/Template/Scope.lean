import BilingualLessons.Json.Value
import BilingualLessons.Template.Path

namespace BilingualLessons.Template

/-!
# Scopes

The values that a path can refer to.  A scope is a list of frames, the innermost first; a loop
adds a frame for its element.

* `Frame` — a map of values, or the element of a loop.
* `Scope.lookup` — the first frame that binds a key decides.
* `walk` — from a value along keys and indexes.
* `Scope.resolve` — the value of a path; `null` is no value.
-/

/-- A layer of a scope. -/
inductive Frame where
  | values (fields : Fields)
  | iteration (item : Json) (index length : Nat)

/-- The value that a frame binds to a key. The frame of a loop binds `this`, `@index`, `@first` and
    `@last` before the fields of its element. -/
def Frame.get? (key : String) : Frame → Option Json
  | .values fields => fields.get? key
  | .iteration item index length =>
    if key = "this" then some item
    else if key = "@index" then some (.ofNat index)
    else if key = "@first" then some (.bool (index = 0))
    else if key = "@last" then some (.bool (index + 1 = length))
    else item.field? key

/-- The layers that a path is looked up in, the innermost first. -/
abbrev Scope := List Frame

/-- The value that the innermost frame with this key binds to it. -/
def Scope.lookup (scope : Scope) (key : String) : Option Json :=
  scope.findSome? (Frame.get? key)

/-- The number that an index segment writes: digits, with or without a plus sign before them, and
    below `2^64`. -/
def indexOf? (segment : List Char) : Option Nat :=
  let digits := match segment with
    | '+' :: rest => rest
    | cs => cs
  if digits.isEmpty || !digits.all Char.isDigit then none
  else
    let n := digits.foldl (fun n c => n * 10 + (c.toNat - '0'.toNat)) 0
    if n < Nat.pow 2 64 then some n else none

/-- The value one segment further: a field of an object or an element of an array. -/
def step (v : Json) (segment : List Char) : Option Json :=
  match v with
  | .object fields => Fields.get? (String.ofList segment) fields
  | .array items => (indexOf? segment).bind fun i => items[i]?
  | _ => none

/-- The value at the end of the segments. -/
def walk (v : Json) (path : List (List Char)) : Option Json :=
  path.foldlM step v

/-- The value of a path. A key that is the whole path wins; otherwise the part before the first
    point is looked up and the rest is followed from there. -/
def Scope.resolve (scope : Scope) (path : String) : Option Json :=
  match scope.lookup path with
  | some v => v.nonNull
  | none =>
    match splitFirst? path.toList with
    | none => none
    | some (head, tail) =>
      match scope.lookup (String.ofList head) with
      | none => none
      | some root => (walk root (segments tail)).bind Json.nonNull

end BilingualLessons.Template
