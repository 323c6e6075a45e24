import EditorSession.Decimal.Numeral
import EditorSession.Text.Pieces

/-! # Why a value is not encoded

A failure to encode a value has a text and may name a place by a line and a column.
`EncodeError.ofMessage` reads both off a message and `EncodeError.message` writes them. A message
that ends in no place is kept as it is.

This is how serde_json makes an error of a message, which is assumed of it here. -/

namespace EditorSession.Json

/-- A failure to encode a value. Lines count from one, so line zero is no place. -/
structure EncodeError where
  text : String
  line : Nat
  column : Nat
deriving DecidableEq, Repr

namespace EncodeError

/-- The mark before the number of a line. -/
def lineMark : String := " at line "

/-- The mark before the number of a column. -/
def columnMark : String := " column "

/-- The text with the place, if there is one. -/
def message (e : EncodeError) : String :=
  if e.line = 0 then e.text
  else e.text ++ lineMark ++ toString e.line ++ columnMark ++ toString e.column

/-- The number of digits that fits into 64 bits. -/
def number? (digits : List Char) : Option Nat :=
  (Numeral.natural? digits).filter (· < Nat.pow 2 64)

/-- The text, the line and the column of a message that ends in a place. -/
def place? (cs : List Char) : Option EncodeError := do
  let (text, cs) ← Text.cutAtLast? lineMark.toList cs
  let line ← number? (cs.takeWhile Char.isDigit)
  let cs ← columnMark.toList.isPrefixOf? (cs.dropWhile Char.isDigit)
  let column ← number? cs
  return ⟨String.ofList text, line, column⟩

/-- The failure of that message. -/
def ofMessage (message : String) : EncodeError :=
  (place? message.toList).getD ⟨message, 0, 0⟩

end EncodeError

end EditorSession.Json
