import EditorSession.Decimal.Shortest
import EditorSession.Json.Basic

/-! # Compact JSON text

`Json.text` writes a value without blanks. A quote and a backslash are escaped with a backslash, the
control characters below U+0020 by their short escape or as `\u00xx` with lower-case digits, and
every other character stands for itself.

What is assumed of serde_json is that its compact writer writes this text: members in the order in
which they are stored, which is that of their names, and doubles by the shortest digits that lead
back to them. -/

namespace EditorSession.Json

/-! ### Scalars -/

/-- The lower-case hexadecimal digit of a number below sixteen. -/
def hexDigit (n : Nat) : Char := Nat.digitChar n

/-- The written form of a character inside quotes. -/
def escape (c : Char) : List Char :=
  if c = '"' then ['\\', '"']
  else if c = '\\' then ['\\', '\\']
  else if c = '\x08' then ['\\', 'b']
  else if c = '\t' then ['\\', 't']
  else if c = '\n' then ['\\', 'n']
  else if c = '\x0c' then ['\\', 'f']
  else if c = '\r' then ['\\', 'r']
  else if c.toNat < 0x20 then
    ['\\', 'u', '0', '0', hexDigit (c.toNat / 16), hexDigit (c.toNat % 16)]
  else [c]

/-- The text between quotes. -/
def quote (s : String) : List Char := '"' :: s.toList.flatMap escape ++ ['"']

/-- The decimal digits of an integer, after a minus sign if it is negative. -/
def integerText (n : Int) : List Char :=
  if n < 0 then '-' :: Nat.toDigits 10 n.natAbs else Nat.toDigits 10 n.natAbs

/-- A whole binary64 number keeps its `.0`, so that it is told apart from an integer. -/
def Number.text : Number → List Char
  | .integer n => integerText n
  | .double d => d.text

/-! ### Values -/

mutual
/-- The text of a value. -/
def text : Json → List Char
  | null => ['n', 'u', 'l', 'l']
  | boolean true => ['t', 'r', 'u', 'e']
  | boolean false => ['f', 'a', 'l', 's', 'e']
  | number n => n.text
  | string s => quote s
  | array [] => ['[', ']']
  | array (item :: rest) => '[' :: item.text ++ restText rest
  | object [] => ['{', '}']
  | object ((name, value) :: rest) => '{' :: quote name ++ ':' :: value.text ++ membersText rest

/-- The items after the first and the closing bracket. -/
def restText : List Json → List Char
  | [] => [']']
  | item :: rest => ',' :: item.text ++ restText rest

/-- The members after the first and the closing bracket. -/
def membersText : List (String × Json) → List Char
  | [] => ['}']
  | (name, value) :: rest => ',' :: quote name ++ ':' :: value.text ++ membersText rest
end

/-- The text of a value, as a string. -/
def render (value : Json) : String := String.ofList value.text

end EditorSession.Json
