import EditorSession.Text.Hidden

/-! # Quoted text

`quoted` shows a text between double quotes on one line: a quote, a backslash and the common
controls are escaped, and a character without a shape of its own is written by its number,
`\u{301}`. -/

namespace EditorSession.Text

/-- The number of a character in braces, in lower-case hexadecimal. -/
def byNumber (c : Char) : List Char :=
  ['\\', 'u', '\x7b'] ++ Nat.toDigits 16 c.toNat ++ ['\x7d']

/-- The shown form of a character between quotes. -/
def shown (c : Char) : List Char :=
  if c = '\x00' then ['\\', '0']
  else if c = '\t' then ['\\', 't']
  else if c = '\r' then ['\\', 'r']
  else if c = '\n' then ['\\', 'n']
  else if c = '\\' then ['\\', '\\']
  else if c = '"' then ['\\', '"']
  else if isHidden c then byNumber c
  else [c]

/-- The text between quotes. -/
def quoted (s : String) : String :=
  String.ofList ('"' :: s.toList.flatMap shown ++ ['"'])

end EditorSession.Text
