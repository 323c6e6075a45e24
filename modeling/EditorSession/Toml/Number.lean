import EditorSession.Decimal.Numeral
import EditorSession.Json.Basic
import EditorSession.Text.Hexadecimal
import EditorSession.Text.Pieces

/-! # Numbers

Integers are decimal with a sign, or hexadecimal, octal or binary without one, and lie between
`-2^63` and `2^63 - 1`. A float has a fraction or an exponent. An underscore may stand between two
digits. The floats that are no numbers or infinite are null.

This is how the TOML reader behind ortho_config reads a file, as far as observed. -/

namespace EditorSession.Toml

/-- The digits without the underscores between them, if there is a digit on both sides of each. -/
def ungrouped? (isDigit : Char → Bool) (cs : List Char) : Option (List Char) :=
  let groups := Text.pieces '_' cs
  if groups.all fun group => !group.isEmpty && group.all isDigit then some groups.flatten else none

/-- Decimal digits without the underscores. -/
def decimal? (cs : List Char) : Option (List Char) := ungrouped? Char.isDigit cs

/-- The integer within the range of 64 bits. -/
def integer? (n : Int) : Option Json :=
  if -Int.pow 2 63 ≤ n ∧ n < Int.pow 2 63 then some (.int n) else none

/-- The integer whose digits in the base follow a letter for the base. -/
def based? (base : Nat) (cs : List Char) : Option Json := do
  let digits ← ungrouped? (fun c => (Text.hexDigit? c).any (· < base)) cs
  integer? (digits.foldl (fun n c => base * n + (Text.hexDigit? c).getD 0) 0 : Nat)

/-- Decimal digits in which no zero stands in front of another digit. -/
def leading? (cs : List Char) : Option (List Char) := do
  let digits ← decimal? cs
  if digits.head? = some '0' ∧ 1 < digits.length then none else some digits

/-- The sign and the digits of an exponent without the underscores. -/
def exponent? (cs : List Char) : Option (List Char) := do
  let (negative, cs) := Numeral.unsigned cs
  let digits ← decimal? cs
  return if negative then '-' :: digits else digits

/-- An optional part that has to be well formed if it is there. -/
def optional? (read : List Char → Option (List Char)) :
    Option (List Char) → Option (Option (List Char))
  | none => some none
  | some cs => (read cs).map some

/-- The integer or float of a decimal numeral. -/
def decimalNumber? (n : Numeral) : Option Json := do
  let whole ← leading? n.whole
  let fraction ← optional? decimal? n.fraction
  let exponent ← optional? exponent? n.exponent
  let n : Numeral := ⟨n.negative, whole, fraction, exponent⟩
  if fraction.isNone ∧ exponent.isNone then integer? n.integer
  else n.double.map fun d => .number (.double d)

/-- The number that a word writes, if it writes one. -/
def number? (word : List Char) : Option Json :=
  match word with
  | '0' :: 'x' :: cs => based? 16 cs
  | '0' :: 'o' :: cs => based? 8 cs
  | '0' :: 'b' :: cs => based? 2 cs
  | _ =>
    let (_, name) := Numeral.unsigned word
    if name = ['i', 'n', 'f'] ∨ name = ['n', 'a', 'n'] then some .null
    else decimalNumber? (.ofChars word)

end EditorSession.Toml
