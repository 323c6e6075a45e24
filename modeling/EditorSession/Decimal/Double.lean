/-! # Finite binary64 numbers

A `Double` is a sign, a significand and an exponent. Rounding is exact: `Double.nearest` takes a
quotient of natural numbers to the nearest binary64 number, a tie going to the even significand, and
the other operations are that function applied to exact results. Decimal literals get their value by
one of two rules: `Double.nearestDecimal` rounds the exact decimal once, and `Double.ofDecimal`
rounds the significand first and then scales it by rounded powers of ten. -/

namespace EditorSession

/-- The finite binary64 number `± significand * 2 ^ exponent`. -/
structure Double where
  negative : Bool
  significand : Nat
  exponent : Int
deriving DecidableEq, Repr

namespace Double

/-! ### Range -/

/-- The exponent of the subnormal numbers. -/
def minExponent : Int := -1074

/-- The exponent of the largest finite numbers. -/
def maxExponent : Int := 971

/-- Zero of either sign. -/
def zero (negative : Bool) : Double := ⟨negative, 0, minExponent⟩

/-- Either zero. -/
def isZero (d : Double) : Bool := d.significand == 0

/-! ### Exact value -/

/-- `num / den` divided by `2 ^ e`, as a quotient of natural numbers. -/
def descale (num den : Nat) (e : Int) : Nat × Nat :=
  if 0 ≤ e then (num, den * Nat.pow 2 e.toNat) else (num * Nat.pow 2 (-e).toNat, den)

/-- The absolute value as a quotient of natural numbers. -/
def magnitude (d : Double) : Nat × Nat := descale d.significand 1 (-d.exponent)

/-! ### Rounding -/

/-- The integer nearest to `num / den`; a half goes to the even neighbour. -/
def roundHalfEven (num den : Nat) : Nat :=
  let quotient := num / den
  let twice := 2 * (num % den)
  if twice < den ∨ (twice = den ∧ quotient % 2 = 0) then quotient else quotient + 1

/-- The exponent at which the positive `num / den` has a significand of 53 bits. -/
def normalExponent (num den : Nat) : Int :=
  let guess : Int := (num.log2 : Int) - den.log2 - 52
  let (a, b) := descale num den guess
  if a < b * Nat.pow 2 52 then guess - 1 else guess

/-- The binary64 number nearest to `num / den`, or nothing beyond the finite range. -/
def nearest (negative : Bool) (num den : Nat) : Option Double :=
  if num = 0 then some (zero negative)
  else
    let e := max (normalExponent num den) minExponent
    let (a, b) := descale num den e
    let q := roundHalfEven a b
    let (q, e) := if q = Nat.pow 2 53 then (Nat.pow 2 52, e + 1) else (q, e)
    if maxExponent < e then none else some ⟨negative, q, e⟩

/-! ### Decimals rounded once -/

/-- A decimal below one that has more places than this rounds to zero, and one with more digits
before the point lies beyond the finite range. -/
def decimalReach : Int := 400

/-- The binary64 number nearest to `± digits * 10 ^ exponent`, or nothing beyond the finite range.
-/
def nearestDecimal (negative : Bool) (digits : Nat) (exponent : Int) : Option Double :=
  let point : Int := (Nat.toDigits 10 digits).length + exponent
  if digits = 0 ∨ point < -decimalReach then some (zero negative)
  else if decimalReach < point then none
  else if 0 ≤ exponent then nearest negative (digits * Nat.pow 10 exponent.toNat) 1
  else nearest negative digits (Nat.pow 10 (-exponent).toNat)

/-! ### Scaling by powers of ten -/

/-- Powers of ten up to this one are binary64 numbers. -/
def maxPowerOfTen : Nat := 308

/-- The binary64 number nearest to `10 ^ k`, as a quotient. -/
def powerOfTen (k : Nat) : Nat × Nat := ((nearest false (Nat.pow 10 k) 1).map magnitude).getD (0, 1)

/-- The rounded product with the rounded `10 ^ k`. -/
def scaleUp (d : Double) (k : Nat) : Option Double :=
  let (a, b) := d.magnitude
  let (p, q) := powerOfTen k
  nearest d.negative (a * p) (b * q)

/-- The rounded quotient by the rounded `10 ^ k`. -/
def scaleDown (d : Double) (k : Nat) : Double :=
  let (a, b) := d.magnitude
  let (p, q) := powerOfTen k
  (nearest d.negative (a * q) (b * p)).getD (zero d.negative)

/-- Repeated quotients by the largest power of ten, then by the one that is left. -/
def scaleDownFar (d : Double) (k : Nat) : Double :=
  if k ≤ maxPowerOfTen then d.scaleDown k
  else if d.isZero then d
  else (d.scaleDown maxPowerOfTen).scaleDownFar (k - maxPowerOfTen)
termination_by k
decreasing_by simp only [maxPowerOfTen] at *; omega

/-- The value of the literal `± significand * 10 ^ exponent`: the significand is rounded and then
scaled. Nothing when the literal is beyond the finite range. -/
def ofDecimal (negative : Bool) (significand : Nat) (exponent : Int) : Option Double :=
  (nearest negative significand 1).bind fun d =>
    if exponent < 0 then some (d.scaleDownFar (-exponent).toNat)
    else if exponent.toNat ≤ maxPowerOfTen then d.scaleUp exponent.toNat
    else if d.isZero then some d
    else none

end Double

end EditorSession
