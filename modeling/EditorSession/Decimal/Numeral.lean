import EditorSession.Decimal.Double

/-! # Decimal numerals

A numeral is split at its sign, its point and the letter of its exponent before anyone asks whether
the parts are made of digits: the notations that use numerals differ in what they allow there. -/

namespace EditorSession

/-- A decimal numeral in parts. The exponent is written after an `e` of either case. -/
structure Numeral where
  negative : Bool
  whole : List Char
  fraction : Option (List Char)
  exponent : Option (List Char)
deriving DecidableEq, Repr

namespace Numeral

/-! ### Parts -/

/-- Whether a minus sign stands in front, and what follows the sign if there is one. -/
def unsigned : List Char → Bool × List Char
  | '-' :: cs => (true, cs)
  | '+' :: cs => (false, cs)
  | cs => (false, cs)

/-- The part before the first character with the property, and the part after it. -/
def cut (p : Char → Bool) (cs : List Char) : List Char × Option (List Char) :=
  (cs.takeWhile fun c => !p c, (cs.dropWhile fun c => !p c).tail?)

/-- The parts of a numeral. -/
def ofChars (cs : List Char) : Numeral :=
  let (negative, cs) := unsigned cs
  let (mantissa, exponent) := cut (fun c => c = 'e' || c = 'E') cs
  let (whole, fraction) := cut (· = '.') mantissa
  ⟨negative, whole, fraction, exponent⟩

/-! ### Digits -/

/-- The natural number of decimal digits. -/
def natural (digits : List Char) : Nat :=
  digits.foldl (fun n c => 10 * n + (c.toNat - '0'.toNat)) 0

/-- At least one digit, and nothing else. -/
def isDigits (cs : List Char) : Bool := !cs.isEmpty && cs.all Char.isDigit

/-- The natural number of a text that is made of digits. -/
def natural? (cs : List Char) : Option Nat := if isDigits cs then some (natural cs) else none

/-- The natural number of a text of digits, which a plus sign may precede. -/
def count? : List Char → Option Nat
  | '+' :: cs => natural? cs
  | cs => natural? cs

/-- The integer of digits under a sign. -/
def signed (negative : Bool) (digits : List Char) : Int :=
  if negative then -natural digits else natural digits

/-- The integer that the whole part writes. -/
def integer (n : Numeral) : Int := signed n.negative n.whole

/-- The exponent that is written, or zero. -/
def power (n : Numeral) : Int :=
  match n.exponent with
  | none => 0
  | some cs => let (negative, digits) := unsigned cs; signed negative digits

/-- The nearest binary64 number, or nothing beyond the finite range. -/
def double (n : Numeral) : Option Double :=
  let fraction := n.fraction.getD []
  Double.nearestDecimal n.negative (natural (n.whole ++ fraction)) (n.power - fraction.length)

end Numeral

end EditorSession
