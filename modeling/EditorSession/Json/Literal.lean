import EditorSession.Json.Outline
import EditorSession.Text.Hexadecimal

/-! # Literals of JSON text

The scanners of this module read one literal from the front of a list of characters and return what
follows it, or the break at which they stop. `Literal.quoted` reads what follows an opening quote
and `Literal.numeral` a number.

What is assumed of serde_json is that it reads the escapes, surrogate pairs and numerals of JSON and
rounds a number that is no integer of 64 bits as `Double.ofDecimal` does. -/

namespace EditorSession.Json.Literal

/-- A value and the characters after it, or the break that cuts it short. -/
abbrev Scan (α : Type) := Except Break (α × List Char)

/-! ### Keywords -/

/-- What follows the keyword. -/
def keyword : List Char → List Char → Except Break (List Char)
  | [], cs => .ok cs
  | _ :: _, [] => .error (.plain .truncated)
  | k :: ks, c :: cs => if c = k then keyword ks cs else .error (.plain .malformed)

/-! ### Strings -/

/-- A part of a quoted text: a character, or a code unit written in hexadecimal. -/
inductive Part where
  | plain (c : Char)
  | unit (code : Nat)
deriving DecidableEq, Repr

/-- The code unit of four hexadecimal digits. -/
def unit? (a b c d : Char) : Option Nat := Text.hexNatural? [a, b, c, d]

/-- The character that a backslash and this one stand for. -/
def unescape? (c : Char) : Option Char :=
  if c = '"' then some '"'
  else if c = '\\' then some '\\'
  else if c = '/' then some '/'
  else if c = 'b' then some '\x08'
  else if c = 'f' then some '\x0c'
  else if c = 'n' then some '\n'
  else if c = 'r' then some '\r'
  else if c = 't' then some '\t'
  else none

/-- An escape with fewer than four bytes after its `u` is cut off by the end of the text. -/
def shortUnit (rest : List Char) : Break :=
  .plain (if rest.foldl (fun size c => size + c.utf8Size) 0 < 4 then .truncated else .malformed)

/-- The parts up to the closing quote, and the characters after it or the break before it. -/
def parts : List Char → List Part × Except Break (List Char)
  | [] => ([], .error (.plain .truncated))
  | '"' :: rest => ([], .ok rest)
  | '\\' :: rest =>
    match rest with
    | [] => ([], .error (.plain .truncated))
    | 'u' :: a :: b :: c :: d :: rest =>
      match unit? a b c d with
      | some code => let (ps, fin) := parts rest; (.unit code :: ps, fin)
      | none => ([], .error (.plain .malformed))
    | 'u' :: short => ([], .error (shortUnit short))
    | c :: rest =>
      match unescape? c with
      | some e => let (ps, fin) := parts rest; (.plain e :: ps, fin)
      | none => ([], .error (.plain .malformed))
  | c :: rest =>
    if c.toNat < 0x20 then ([], .error (.plain .malformed))
    else let (ps, fin) := parts rest; (.plain c :: ps, fin)

/-- The characters that the parts spell: a high surrogate needs a low one right after it, and a low
one stands nowhere else. -/
def spell : List Part → Option (List Char)
  | [] => some []
  | .plain c :: rest => (spell rest).map (c :: ·)
  | .unit code :: rest =>
    if code < 0xD800 ∨ 0xDFFF < code then (spell rest).map (Char.ofNat code :: ·)
    else if 0xDC00 ≤ code then none
    else match rest with
      | .unit low :: rest =>
        if 0xDC00 ≤ low ∧ low ≤ 0xDFFF then
          (spell rest).map (Char.ofNat (0x10000 + (code - 0xD800) * 0x400 + (low - 0xDC00)) :: ·)
        else none
      | _ => none

/-- The parts without a high surrogate at their end, whose partner a break may have cut off. -/
def settled (ps : List Part) : List Part :=
  match ps.getLast? with
  | some (.unit code) => if 0xD800 ≤ code ∧ code ≤ 0xDBFF then ps.dropLast else ps
  | _ => ps

/-- Reads what follows an opening quote. A string that breaks off is malformed for its reader if a
surrogate before the break stands alone. -/
def quoted (cs : List Char) : Scan (Option String) :=
  match parts cs with
  | (ps, .ok rest) => .ok ((spell ps).map String.ofList, rest)
  | (ps, .error defect) =>
    if (spell (settled ps)).isSome then .error defect
    else .error { defect with read := .malformed }

/-! ### Numbers -/

/-- The digits at the front. -/
def digits : List Char → List Nat × List Char
  | [] => ([], [])
  | c :: cs =>
    if c.isDigit then let (ds, rest) := digits cs; ((c.toNat - '0'.toNat) :: ds, rest)
    else ([], c :: cs)

/-- A digit is missing before the rest: one who skips the number does not ask whether the text
ends there. -/
def digitless (rest : List Char) : Break :=
  match rest with
  | [] => ⟨.truncated, .malformed⟩
  | _ :: _ => .plain .malformed

/-- One digit or more. -/
def someDigits (cs : List Char) : Scan (List Nat) :=
  match digits cs with
  | ([], rest) => .error (digitless rest)
  | found => .ok found

/-- The digits before the point: a zero stands alone. -/
def wholePart (cs : List Char) : Scan (List Nat) :=
  match digits cs with
  | ([], rest) => .error (digitless rest)
  | (0 :: _ :: _, _) => .error (.plain .malformed)
  | found => .ok found

/-- The digits after the point, none if there is no point. -/
def fractionPart : List Char → Scan (List Nat)
  | '.' :: cs => someDigits cs
  | cs => .ok ([], cs)

/-- The natural number of the decimal digits. -/
def natural (ds : List Nat) : Nat := ds.foldl (fun n d => 10 * n + d) 0

/-- The exponent, if there is one. -/
def exponentPart : List Char → Scan (Option Int)
  | c :: cs =>
    if c = 'e' ∨ c = 'E' then
      match cs with
      | '-' :: cs => (someDigits cs).map fun (ds, rest) => (some (-(natural ds : Int)), rest)
      | '+' :: cs => (someDigits cs).map fun (ds, rest) => (some (natural ds : Int), rest)
      | cs => (someDigits cs).map fun (ds, rest) => (some (natural ds : Int), rest)
    else .ok (none, c :: cs)
  | [] => .ok (none, [])

/-- Takes digits into the significand while it stays below `2^64`; the others are left over. -/
def absorb (significand : Nat) : List Nat → Nat × List Nat
  | [] => (significand, [])
  | d :: ds =>
    if 10 * significand + d < Nat.pow 2 64 then absorb (10 * significand + d) ds
    else (significand, d :: ds)

/-- The number of a literal. Digits without point and exponent are an integer while they fit; a
longer literal and `-0` are binary64 numbers, and nothing stands for a number out of range. -/
def number (negative : Bool) (whole fraction : List Nat) (exponent : Option Int) : Option Number :=
  let (n, excess) := absorb 0 whole
  if fraction.isEmpty ∧ exponent.isNone ∧ excess.isEmpty then
    if negative = false then some (.integer n)
    else if 0 < n ∧ n ≤ Nat.pow 2 63 then some (.integer (-n))
    else (Double.nearest true n 1).map .double
  else
    let (m, unread) := absorb n fraction
    let scale : Int := excess.length - (fraction.length - unread.length : Nat) + exponent.getD 0
    (Double.ofDecimal negative m scale).map .double

/-- Reads a number after its sign. -/
def unsigned (negative : Bool) (cs : List Char) : Except Break (Option Number × List Char) := do
  let (whole, cs) ← wholePart cs
  let (fraction, cs) ← fractionPart cs
  let (exponent, cs) ← exponentPart cs
  return (number negative whole fraction exponent, cs)

/-- Reads a number. -/
def numeral : List Char → Scan (Option Number)
  | '-' :: cs => unsigned true cs
  | cs => unsigned false cs

end EditorSession.Json.Literal
