import BilingualLessons.Decimal.Binary64

namespace BilingualLessons.Decimal

/-!
# The shortest decimal of a double

The decimal with the fewest digits that rounds to a given double, and its two written forms.

* `Interval` — the numbers that round to a double.
* `shortest` — the fewest digits, and of these the nearest.
* `plainText` — written without an exponent, whole numbers without a point.
* `exactText` — written so that it reads as a double again: `1.0`, `1e+21`.
-/

/-- The numbers that round to `mantissa · 2^exponent`, in units of a quarter of the last place: from
    `low` to `high`, the ends included where the mantissa is even. -/
structure Interval where
  low : Nat
  value : Nat
  high : Nat
  closed : Bool
  /-- The unit, as a quotient. -/
  unit : Nat × Nat

/-- The interval of a double that is not zero. Below a power of two the neighbour is at half the
    distance. -/
def Interval.ofBinary64 (x : Binary64) : Interval :=
  let m := x.mantissa
  let narrow := m = Nat.pow 2 52 ∧ minExponent < x.exponent
  { low := 4 * m - (if narrow then 1 else 2)
    value := 4 * m
    high := 4 * m + 2
    closed := m % 2 == 0
    unit := powerOfTwo (x.exponent - 2) }

/-- A decimal `digits · 10^exponent`. -/
structure Digits where
  digits : Nat
  exponent : Int
deriving DecidableEq, Repr

/-- `10^p` as a quotient. -/
def decimalUnit (p : Int) : Nat × Nat :=
  (Nat.pow 10 p.toNat, Nat.pow 10 (-p).toNat)

/-- Which of two equally near decimals is taken. -/
inductive Tie where
  | up
  | even
deriving DecidableEq, Repr

/-- The multiple of `10^p` in the interval that is nearest to its value, of two equally near ones
    the one that `tie` names; none where the interval holds no multiple. -/
def Interval.onGrid (tie : Tie) (i : Interval) (p : Int) : Option Digits :=
  let (unitUp, unitDown) := i.unit
  let (gridUp, gridDown) := decimalUnit p
  -- `n` quarters of a place are `n * a / b` steps of the grid
  let a := unitUp * gridDown
  let b := unitDown * gridUp
  let inside (k : Nat) : Bool :=
    if i.closed then i.low * a ≤ k * b && k * b ≤ i.high * a
    else i.low * a < k * b && k * b < i.high * a
  let below := i.value * a / b
  let above := below + 1
  match inside below, inside above with
  | true, true =>
    let down := i.value * a - below * b
    let up := above * b - i.value * a
    let takeBelow := down < up ∨ (down = up ∧ tie = .even ∧ below % 2 = 0)
    if takeBelow then some ⟨below, p⟩ else some ⟨above, p⟩
  | true, false => some ⟨below, p⟩
  | false, true => some ⟨above, p⟩
  | false, false => none

/-- The first grid with a hit, from `10^top` downwards through at most `steps` grids. -/
def Interval.firstHit (tie : Tie) (i : Interval) (top : Int) : Nat → Digits
  | 0 => ⟨0, 0⟩
  | steps + 1 =>
    match i.onGrid tie top with
    | some d => d
    | none => i.firstHit tie (top - 1) steps

/-- The decimal with the fewest digits among those that round to `x`, and the nearest to `x` of
    these. The search starts above the magnitude of `x` and 17 digits always suffice. -/
def shortest (tie : Tie) (x : Binary64) : Digits :=
  if x.isZero then ⟨0, 0⟩
  else
    let magnitude : Int := (x.mantissa.log2 : Int) + x.exponent
    let top := Int.fdiv (magnitude * 30103) 100000 + 2
    (Interval.ofBinary64 x).firstHit tie top 22

/-! ### Written forms -/

/-- Decimal digits of `n`. -/
def natText (n : Nat) : String := toString n

/-- `n` zeros. -/
def zeros (n : Nat) : String := String.ofList (List.replicate n '0')

/-- `d` written without an exponent, with a point only where there is a fraction. -/
def Digits.positional (d : Digits) : String :=
  if 0 ≤ d.exponent then
    natText d.digits ++ (if d.digits = 0 then "" else zeros d.exponent.toNat)
  else
    let cs := (natText d.digits).toList
    let places := d.exponent.natAbs
    if places < cs.length then
      String.ofList (cs.take (cs.length - places)) ++ "." ++
        String.ofList (cs.drop (cs.length - places))
    else
      "0." ++ zeros (places - cs.length) ++ String.ofList cs

/-- `d` written with one digit before the point and the sign of the exponent. -/
def Digits.scientific (d : Digits) : String :=
  let cs := (natText d.digits).toList
  let power : Int := d.exponent + ((cs.length - 1 : Nat) : Int)
  let sign := if 0 ≤ power then "+" else "-"
  let fraction := if cs.length ≤ 1 then "" else "." ++ String.ofList (cs.drop 1)
  String.ofList (cs.take 1) ++ fraction ++ "e" ++ sign ++ natText power.natAbs

/-- A double as plain decimal text: no exponent, no point in whole numbers, `0` for zero of either
    sign, and of two equally near decimals the larger. -/
def plainText (x : Binary64) : String :=
  if x.isZero then "0"
  else (if x.negative then "-" else "") ++ (shortest .up x).positional

/-- The place of the decimal point, counted from the first digit. -/
def Digits.point (d : Digits) : Int :=
  d.exponent + ((natText d.digits).length : Int)

/-- A double as text that reads as a double again: with an exponent from `10^16` on and below
    `10^-5`, with `.0` in whole numbers otherwise, and of two equally near decimals the even one. -/
def exactText (x : Binary64) : String :=
  let sign := if x.negative then "-" else ""
  if x.isZero then sign ++ "0.0"
  else
    let d := shortest .even x
    if d.point ≤ -5 ∨ 16 < d.point then sign ++ d.scientific
    else if 0 ≤ d.exponent then sign ++ d.positional ++ ".0"
    else sign ++ d.positional

end BilingualLessons.Decimal
