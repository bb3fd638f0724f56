import BilingualLessons.Json.Value

namespace BilingualLessons.Template

/-!
# Contexts

The values that the caller of a template supplies.

* `Context` — values under names; a `null` stands for no value.
-/

/-- The values that the caller of a template supplies. -/
structure Context where
  values : Fields := []
deriving DecidableEq, Repr

namespace Context

/-- A value as a context; anything but an object is handed back. -/
def ofJson : Json → Except Json Context
  | .object fields => .ok ⟨fields⟩
  | v => .error v

/-- The context of a list of pairs, the last of several pairs with one key winning. -/
def ofList (pairs : List (String × Json)) : Context := ⟨Fields.ofList pairs⟩

/-- Sets a value. -/
def set (context : Context) (key : String) (value : Json) : Context :=
  ⟨context.values.insert key value⟩

/-- Sets several values. -/
def extend (context : Context) (added : Fields) : Context :=
  ⟨context.values.insertAll added⟩

/-- The value under a name, unless it is `null`. -/
def get? (context : Context) (key : String) : Option Json :=
  (context.values.get? key).bind Json.nonNull

/-- Whether there is a value under a name. -/
def contains (context : Context) (key : String) : Bool :=
  (context.get? key).isSome

/-- The number of names, those of `null` included. -/
def size (context : Context) : Nat := context.values.length

/-- Whether there are no names. -/
def isEmpty (context : Context) : Bool := context.values.isEmpty

end Context

end BilingualLessons.Template
