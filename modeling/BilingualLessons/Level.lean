import BilingualLessons.Record.Decode
import BilingualLessons.Text.Blank

namespace BilingualLessons

/-!
# CEFR levels

The five levels of proficiency, the axis along which templates, concepts and words are graded.

* `Level` — the levels in ascending order.
* `Level.number` — the grade that vocabulary carries.
* `Level.range` — the levels between two.
-/

/-- A level of the Common European Framework. -/
inductive Level where
  | a1
  | a2
  | b1
  | b2
  | c1
deriving DecidableEq, Repr

namespace Level

/-- Every level, in ascending order. -/
def all : List Level := [.a1, .a2, .b1, .b2, .c1]

/-- The grade of a level, one for the lowest. -/
def number : Level → Nat
  | .a1 => 1
  | .a2 => 2
  | .b1 => 3
  | .b2 => 4
  | .c1 => 5

/-- The name of a level. -/
def name : Level → String
  | .a1 => "A1"
  | .a2 => "A2"
  | .b1 => "B1"
  | .b2 => "B2"
  | .c1 => "C1"

instance : LE Level := ⟨fun a b => a.number ≤ b.number⟩

instance : DecidableRel (fun a b : Level => a ≤ b) :=
  fun a b => inferInstanceAs (Decidable (a.number ≤ b.number))

theorem mem_all (level : Level) : level ∈ all := by
  cases level <;> decide

/-- The levels from `start` to `stop`, both included. None if they are out of order. -/
def range (start stop : Level) : List Level :=
  all.filter fun level => start ≤ level ∧ level ≤ stop

theorem mem_range {start stop level : Level} :
    level ∈ range start stop ↔ start ≤ level ∧ level ≤ stop := by
  simp [range, mem_all]

theorem nodup_range (start stop : Level) : (range start stop).Nodup := by
  have hall : all.Nodup := by decide
  exact hall.filter _

/-- The names of the levels. -/
def names : List (String × Level) := all.map fun level => (level.name, level)

/-- The level of a name; blanks around it and its case do not count. -/
def parse (s : String) : Except String Level :=
  let name := String.ofList ((Text.trim s.toList).map Char.toUpper)
  match names.find? (·.1 == name) with
  | some (_, level) => .ok level
  | none => .error s!"unknown CEFR level: {name}"

/-- The level of exactly this name. -/
def decode : Record.Decoder Level := Record.variant names

/-- The name as a value. -/
def encode (level : Level) : Json := .string level.name

end Level

end BilingualLessons
