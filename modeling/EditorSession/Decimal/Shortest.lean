import EditorSession.Decimal.Double

/-! # Shortest decimal notation

`Double.shortest` finds the decimal with the fewest digits that rounds to a given number: for one,
two, … seventeen digits it looks at the two neighbours of the number on that decimal grid and takes
the first grid with a neighbour inside the interval of reals that round to the number. `Double.text`
lays the digits out: with a point while the point lies near the digits, with an exponent otherwise.
-/

namespace EditorSession

/-- The decimal number `digits * 10 ^ exponent`. -/
structure Decimal where
  digits : Nat
  exponent : Int
deriving DecidableEq, Repr

/-- The same number without zeros at the end of its digits. -/
def Decimal.trim (c : Decimal) : Decimal :=
  if h : c.digits ≠ 0 ∧ c.digits % 10 = 0 then trim ⟨c.digits / 10, c.exponent + 1⟩ else c
termination_by c.digits
decreasing_by omega

namespace Double

/-! ### The interval of reals that round to a number -/

/-- Four times the significand, less the distance to the lower end of the interval. -/
def lowEnd (d : Double) : Nat :=
  if d.significand = Nat.pow 2 52 ∧ minExponent < d.exponent then 4 * d.significand - 1
  else 4 * d.significand - 2

/-- Four times the significand, plus the distance to the upper end of the interval. -/
def highEnd (d : Double) : Nat := 4 * d.significand + 2

/-- The decimal rounds to the absolute value of the number: it lies in the interval, whose ends
belong to it when the significand is even. -/
def covers (d : Double) (c : Decimal) : Bool :=
  let (unit, part) := descale 1 1 (2 - d.exponent)
  let a := c.digits * Nat.pow 10 c.exponent.toNat * part
  let scale := Nat.pow 10 (-c.exponent).toNat * unit
  let low := d.lowEnd * scale
  let high := d.highEnd * scale
  if d.significand % 2 = 0 then low ≤ a && a ≤ high else low < a && a < high

/-! ### Neighbours on a decimal grid -/

/-- The absolute value divided by `10 ^ t`, as a quotient. -/
def onGrid (d : Double) (t : Int) : Nat × Nat :=
  let (a, b) := d.magnitude
  (a * Nat.pow 10 (-t).toNat, b * Nat.pow 10 t.toNat)

/-- Raises an estimate of the decimal exponent until the next power of ten exceeds the number. -/
def raiseDecade (d : Double) : Nat → Int → Int
  | 0, k => k
  | tries + 1, k =>
    let (a, b) := d.onGrid (k + 1)
    if b ≤ a then d.raiseDecade tries (k + 1) else k

/-- The exponent of the largest power of ten that does not exceed the absolute value. -/
def decade (d : Double) : Int :=
  let binary : Int := d.significand.log2 + d.exponent
  d.raiseDecade 4 (Int.fdiv (binary * 30103) 100000 - 1)

/-- The neighbour with `n` digits that rounds to the number; of two the nearer, of two equally near
the even one. -/
def neighbour (d : Double) (n : Nat) : Option Decimal :=
  let t := d.decade - (n - 1 : Nat)
  let (a, b) := d.onGrid t
  let below : Decimal := ⟨a / b, t⟩
  let above : Decimal := ⟨a / b + 1, t⟩
  match d.covers below, d.covers above with
  | true, false => some below
  | false, true => some above
  | true, true => some ⟨roundHalfEven a b, t⟩
  | false, false => none

/-- The decimal with the fewest digits that rounds to the absolute value. -/
def shortest (d : Double) : Decimal :=
  if d.isZero then ⟨0, 0⟩
  else (((List.range' 1 17).findSome? d.neighbour).getD ⟨d.significand, 0⟩).trim

/-! ### Layout -/

/-- Where the decimal point may stand, counted in places after the first digit's left edge, for a
number to be written without an exponent. -/
structure Layout where
  firstPoint : Int
  lastPoint : Int

/-- A point from four places before the first digit to sixteen places after its left edge. -/
def layout : Layout := ⟨-4, 16⟩

/-- The digits with a point after `point` of them; a whole number ends in `.0`. -/
def positional (digits : List Char) (point : Int) : List Char :=
  if point ≤ 0 then ['0', '.'] ++ List.replicate (-point).toNat '0' ++ digits
  else if digits.length ≤ point.toNat then
    digits ++ List.replicate (point.toNat - digits.length) '0' ++ ['.', '0']
  else digits.take point.toNat ++ '.' :: digits.drop point.toNat

/-- One digit, the others after a point, and the exponent of the first digit with its sign. -/
def scientific (digits : List Char) (exponent : Int) : List Char :=
  let mantissa := match digits with
    | first :: second :: rest => first :: '.' :: second :: rest
    | short => short
  let sign := if exponent < 0 then '-' else '+'
  mantissa ++ 'e' :: sign :: Nat.toDigits 10 exponent.natAbs

/-- The text of a number: its shortest digits under `layout`. -/
def text (d : Double) : List Char :=
  let s := d.shortest
  let digits := Nat.toDigits 10 s.digits
  let point : Int := digits.length + s.exponent
  let body := if layout.firstPoint ≤ point ∧ point ≤ layout.lastPoint then positional digits point
    else scientific digits (point - 1)
  if d.negative then '-' :: body else body

end Double

end EditorSession
