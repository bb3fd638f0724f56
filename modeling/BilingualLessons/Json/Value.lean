import BilingualLessons.Decimal.Binary64

namespace BilingualLessons

/-!
# JSON values

* `Number` — an integer or a double; the two are told apart by how they are written.
* `Json` — a JSON value, an object being its fields in ascending order of their keys.
* `Json.Kind` — the six kinds of value and their names.
* `Fields` — the fields of an object: look-up, insertion, building from a list of pairs.
-/

/-- A JSON number. Integers stay exact; every other number is a double. -/
inductive Number where
  | whole (i : Int)
  | real (x : Decimal.Binary64)
deriving DecidableEq, Repr

/-- Whether the number is zero. -/
def Number.isZero : Number → Bool
  | .whole i => i == 0
  | .real x => x.isZero

/-- A JSON value. -/
inductive Json where
  | null
  | bool (b : Bool)
  | number (n : Number)
  | string (s : String)
  | array (items : List Json)
  | object (fields : List (String × Json))
deriving Repr, Inhabited

namespace Json

mutual

/-- Decides whether two values are the same. -/
def decEq : (v w : Json) → Decidable (v = w)
  | .null, .null => isTrue rfl
  | .bool b, .bool c => decidable_of_iff (b = c) (by simp)
  | .number n, .number m => decidable_of_iff (n = m) (by simp)
  | .string s, .string t => decidable_of_iff (s = t) (by simp)
  | .array vs, .array ws =>
    have := decEqItems vs ws
    decidable_of_iff (vs = ws) (by simp)
  | .object fs, .object gs =>
    have := decEqFields fs gs
    decidable_of_iff (fs = gs) (by simp)
  | .null, .bool _ | .null, .number _ | .null, .string _ | .null, .array _ | .null, .object _ =>
    isFalse nofun
  | .bool _, .null | .bool _, .number _ | .bool _, .string _ | .bool _, .array _
  | .bool _, .object _ => isFalse nofun
  | .number _, .null | .number _, .bool _ | .number _, .string _ | .number _, .array _
  | .number _, .object _ => isFalse nofun
  | .string _, .null | .string _, .bool _ | .string _, .number _ | .string _, .array _
  | .string _, .object _ => isFalse nofun
  | .array _, .null | .array _, .bool _ | .array _, .number _ | .array _, .string _
  | .array _, .object _ => isFalse nofun
  | .object _, .null | .object _, .bool _ | .object _, .number _ | .object _, .string _
  | .object _, .array _ => isFalse nofun

/-- Decides whether two lists of values are the same. -/
def decEqItems : (vs ws : List Json) → Decidable (vs = ws)
  | [], [] => isTrue rfl
  | [], _ :: _ | _ :: _, [] => isFalse nofun
  | v :: vs, w :: ws =>
    have := decEq v w
    have := decEqItems vs ws
    decidable_of_iff (v = w ∧ vs = ws) (by simp)

/-- Decides whether two lists of fields are the same. -/
def decEqFields : (fs gs : List (String × Json)) → Decidable (fs = gs)
  | [], [] => isTrue rfl
  | [], _ :: _ | _ :: _, [] => isFalse nofun
  | (k, v) :: fs, (l, w) :: gs =>
    have := decEq v w
    have := decEqFields fs gs
    decidable_of_iff (k = l ∧ v = w ∧ fs = gs) (by simp [and_assoc])

end

instance : DecidableEq Json := decEq

end Json

/-- The fields of an object, or the values a template can refer to by name. -/
abbrev Fields := List (String × Json)

namespace Fields

/-- The value under `key`: that of the first field with this key. -/
def get? (key : String) : Fields → Option Json
  | [] => none
  | (k, v) :: rest => if k = key then some v else get? key rest

/-- Whether there is a field with this key. -/
def contains (key : String) (fields : Fields) : Bool :=
  (fields.get? key).isSome

/-- Sets `key` to `value`, at its place in the ascending order of keys. -/
def insert (key : String) (value : Json) : Fields → Fields
  | [] => [(key, value)]
  | (k, v) :: rest =>
    if key < k then (key, value) :: (k, v) :: rest
    else if k = key then (key, value) :: rest
    else (k, v) :: insert key value rest

/-- Sets every field of `added`, a later one winning over an earlier one. -/
def insertAll (fields : Fields) (added : Fields) : Fields :=
  added.foldl (fun acc field => acc.insert field.1 field.2) fields

/-- The fields of a list of pairs in ascending order of keys. The last of several pairs with one key
    wins. -/
def ofList (pairs : List (String × Json)) : Fields :=
  insertAll [] pairs

/-- Fields without the one under `key`. -/
def erase (key : String) (fields : Fields) : Fields :=
  fields.filter fun field => field.1 ≠ key

/-! ### Look-up after an operation -/

@[simp] theorem get?_nil (key : String) : get? key [] = none := rfl

theorem get?_cons (key k : String) (v : Json) (rest : Fields) :
    get? key ((k, v) :: rest) = if k = key then some v else get? key rest := rfl

/-- The first list with the key decides. -/
theorem get?_append (key : String) (left right : Fields) :
    get? key (left ++ right) = (get? key left).or (get? key right) := by
  induction left with
  | nil => rfl
  | cons field left ih =>
    obtain ⟨k, v⟩ := field
    by_cases h : k = key <;> simp [get?_cons, h, ih]

theorem get?_insert (key wanted : String) (value : Json) (fields : Fields) :
    get? wanted (insert key value fields) =
      if key = wanted then some value else get? wanted fields := by
  induction fields with
  | nil => rfl
  | cons field rest ih =>
    obtain ⟨k, v⟩ := field
    unfold insert
    split
    · rfl
    · split
      · next same =>
        subst same
        by_cases h : k = wanted <;> simp [get?_cons, h]
      · next differ =>
        rw [get?_cons, get?_cons, ih]
        by_cases hk : k = wanted
        · subst hk
          simp [Ne.symm differ]
        · simp [hk]

/-- Of inserted fields the last with the key decides, and what was there where none has it. -/
theorem get?_insertAll (key : String) (base added : Fields) :
    get? key (base.insertAll added) = (get? key added.reverse).or (get? key base) := by
  induction added generalizing base with
  | nil => rfl
  | cons field added ih =>
    obtain ⟨k, v⟩ := field
    have hrest : get? key (insertAll (insert k v base) added)
        = (get? key added.reverse).or (get? key (insert k v base)) := ih (insert k v base)
    rw [insertAll, List.foldl_cons, ← insertAll, hrest, List.reverse_cons, get?_append, get?_insert,
      get?_cons, get?_nil]
    by_cases h : k = key <;> cases get? key added.reverse <;> simp [h]

/-- Fields that are chosen by their keys are all there under a key, or none. -/
theorem get?_filter_key (p : String → Bool) (key : String) (fields : Fields) :
    get? key (fields.filter fun field => p field.1) = if p key then get? key fields else none := by
  induction fields with
  | nil => simp
  | cons field rest ih =>
    obtain ⟨k, v⟩ := field
    rw [List.filter_cons, get?_cons]
    by_cases hk : k = key
    · subst hk
      by_cases hp : p k
      · simp [hp, get?_cons]
      · simp [hp, ih]
    · by_cases hp : p k
      · simp [hp, get?_cons, hk, ih]
      · simp [hp, hk, ih]

theorem get?_erase (key wanted : String) (fields : Fields) :
    get? wanted (erase key fields) = if key = wanted then none else get? wanted fields := by
  rw [erase, get?_filter_key (fun k => decide (k ≠ key))]
  by_cases h : key = wanted
  · simp [h]
  · simp [h, Ne.symm h]

end Fields

namespace Json

/-- The six kinds of JSON value. -/
inductive Kind where
  | null
  | boolean
  | number
  | string
  | array
  | object
deriving DecidableEq, Repr

/-- The name of a kind, as messages show it. -/
def Kind.name : Kind → String
  | .null => "null"
  | .boolean => "boolean"
  | .number => "number"
  | .string => "string"
  | .array => "array"
  | .object => "object"

/-- The kind of a value. -/
def kind : Json → Kind
  | .null => .null
  | .bool _ => .boolean
  | .number _ => .number
  | .string _ => .string
  | .array _ => .array
  | .object _ => .object

/-- Whether the value is `null`. -/
def isNull : Json → Bool
  | .null => true
  | _ => false

/-- `null` counts as no value at all. -/
def nonNull (v : Json) : Option Json :=
  if v.isNull then none else some v

/-- The number of an integer. -/
def ofNat (n : Nat) : Json := .number (.whole n)

/-- The list of texts. -/
def ofStrings (texts : List String) : Json := .array (texts.map .string)

/-- `null` in place of an absent value. -/
def ofOption (encode : α → Json) : Option α → Json
  | none => .null
  | some a => encode a

/-- The field `key` of an object; none of any other value. -/
def field? (key : String) : Json → Option Json
  | .object fields => Fields.get? key fields
  | _ => none

/-- The text of a string value. -/
def asString? : Json → Option String
  | .string s => some s
  | _ => none

/-- The truth value of a boolean. -/
def asBool? : Json → Option Bool
  | .bool b => some b
  | _ => none

end Json

end BilingualLessons
