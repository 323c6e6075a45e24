import EditorSession.Text.Blank
import EditorSession.Text.Hexadecimal

/-! # Escaped text between double quotes

A quoted text ends at the next quote that is not escaped. An escape is a backslash and a letter, or
the number of a character in four or eight hexadecimal digits; controls other than the tab have to
be escaped. -/

namespace EditorSession.Text

/-- The character that a backslash and this one stand for. -/
def unescape? (c : Char) : Option Char :=
  if c = '"' then some '"'
  else if c = '\\' then some '\\'
  else if c = 'b' then some '\x08'
  else if c = 'f' then some '\x0c'
  else if c = 'n' then some '\n'
  else if c = 'r' then some '\r'
  else if c = 't' then some '\t'
  else none

/-- The character that the digits number. -/
def numbered? (digits : List Char) : Option Char := (hexNatural? digits).bind scalar?

/-- A text and the characters after it. -/
abbrev Spelled := Option (List Char × List Char)

/-- Puts a character in front of a text; without a character there is no text. -/
def Spelled.cons (c : Option Char) (s : Spelled) : Spelled := do
  let c ← c
  let (text, rest) ← s
  return (c :: text, rest)

/-- The text up to the closing quote, and the characters after that. -/
def escaped : List Char → Spelled
  | [] => none
  | '"' :: rest => some ([], rest)
  | '\\' :: 'u' :: a :: b :: c :: d :: rest => (escaped rest).cons (numbered? [a, b, c, d])
  | '\\' :: 'U' :: a :: b :: c :: d :: e :: f :: g :: h :: rest =>
    (escaped rest).cons (numbered? [a, b, c, d, e, f, g, h])
  | '\\' :: c :: rest => (escaped rest).cons (unescape? c)
  | c :: rest => if c ≠ '\\' ∧ isPlain c then (escaped rest).cons (some c) else none

end EditorSession.Text
