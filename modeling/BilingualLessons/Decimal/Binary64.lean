namespace BilingualLessons.Decimal

/-!
# Binary floating point numbers, exactly

A finite IEEE 754 double is a sign, a mantissa below `2^53` and a power of two.  All arithmetic
here is exact on natural numbers and rounds once, to the nearest double, a tie to the even
mantissa.

* `Binary64` — a finite double.
* `roundRatio` — the double nearest to a quotient of natural numbers.
* `Binary64.mul`, `Binary64.div` — rounded product and quotient of magnitudes.
* `Binary64.ofDecimal` — the double that a decimal significand and exponent stand for.
-/

/-- The finite double `± mantissa · 2^exponent`. -/
structure Binary64 where
  negative : Bool
  mantissa : Nat
  exponent : Int
deriving DecidableEq, Repr

/-- The least exponent of a double, that of the subnormal numbers. -/
def minExponent : Int := -1074

/-- The greatest exponent of a finite double. -/
def maxExponent : Int := 971

namespace Binary64

/-- Zero with the given sign. -/
def zero (negative : Bool) : Binary64 := ⟨negative, 0, minExponent⟩

/-- Whether the double is zero, of either sign. -/
def isZero (x : Binary64) : Bool := x.mantissa == 0

end Binary64

/-! ### Rounding -/

/-- `2^e` as a quotient: the numerator and the denominator. -/
def powerOfTwo (e : Int) : Nat × Nat :=
  (Nat.pow 2 e.toNat, Nat.pow 2 (-e).toNat)

/-- The natural number nearest to `num / den`, a tie to the even one. -/
def roundToEven (num den : Nat) : Nat :=
  let q := num / den
  let twice := 2 * (num % den)
  if twice < den then q
  else if den < twice then q + 1
  else if q % 2 = 0 then q else q + 1

/-- The exponent at which `num / den` has a mantissa of 53 bits, or the least exponent if that is
    larger. -/
def targetExponent (num den : Nat) : Int :=
  let guess : Int := (num.log2 : Int) - (den.log2 : Int) - 53
  let e := max guess minExponent
  let (up, down) := powerOfTwo e
  if num * down / (den * up) < Nat.pow 2 53 then e else e + 1

/-- The nonnegative double nearest to `num / den`; none where that is beyond the largest one. -/
def roundRatio (num den : Nat) : Option Binary64 :=
  if num = 0 then some (.zero false)
  else
    let e := targetExponent num den
    let (up, down) := powerOfTwo e
    let m := roundToEven (num * down) (den * up)
    let (m, e) := if m = Nat.pow 2 53 then (Nat.pow 2 52, e + 1) else (m, e)
    if maxExponent < e then none else some ⟨false, m, e⟩

namespace Binary64

/-- The magnitude of a double as a quotient. -/
def ratio (x : Binary64) : Nat × Nat :=
  let (up, down) := powerOfTwo x.exponent
  (x.mantissa * up, down)

/-- The product of two magnitudes, rounded; none where it overflows. -/
def mul (x y : Binary64) : Option Binary64 :=
  roundRatio (x.ratio.1 * y.ratio.1) (x.ratio.2 * y.ratio.2)

/-- The quotient of two magnitudes, rounded; none where it overflows. -/
def div (x y : Binary64) : Option Binary64 :=
  roundRatio (x.ratio.1 * y.ratio.2) (x.ratio.2 * y.ratio.1)

/-- `10^k`, rounded. -/
def powerOfTen (k : Nat) : Option Binary64 :=
  roundRatio (Nat.pow 10 k) 1

/-- `x / 10^k`: for large `k`, in steps of 308 places, each of them rounded, until nothing is left
    of `x`. -/
def scaleDown (x : Binary64) (k : Nat) : Option Binary64 :=
  if x.isZero then some x
  else if k ≤ 308 then (powerOfTen k).bind x.div
  else ((powerOfTen 308).bind x.div).bind fun y => scaleDown y (k - 308)
termination_by k

/-- `x · 10^k`; none beyond the largest double. -/
def scaleUp (x : Binary64) (k : Nat) : Option Binary64 :=
  if x.isZero then some x
  else if k ≤ 308 then (powerOfTen k).bind x.mul
  else none

/-- The double written `± significand · 10^exponent`. The significand is rounded first and the power
    of ten is applied to the result, so a significand of more than 53 bits can be rounded twice.
    None where the number is beyond the largest double. -/
def ofDecimal (negative : Bool) (significand : Nat) (exponent : Int) : Option Binary64 :=
  let scaled :=
    (roundRatio significand 1).bind fun x =>
      if 0 ≤ exponent then x.scaleUp exponent.toNat else x.scaleDown exponent.natAbs
  scaled.map fun x => ⟨negative, x.mantissa, x.exponent⟩

end Binary64

end BilingualLessons.Decimal
