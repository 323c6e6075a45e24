import EditorSession.Pattern.Switches
import EditorSession.Text.Hexadecimal

/-! # Elements of a pattern

An element is what a backslash and the characters after it stand for, or a character that stands for
itself. No tables of the properties of characters are at hand, so an element that asks for one is
refused: a class such as the digits when the pattern speaks about Unicode, and every character that
stands for its other case too. When the pattern speaks about bytes, what it matches has to be
text all the same. -/

namespace EditorSession.Pattern

/-- The smallest part of a pattern. -/
inductive Element where
  /-- A character, which may be written as the number of a byte. -/
  | character (c : Char) (numbered : Bool)
  /-- The digits, the blanks or the characters of words, or all others. -/
  | shorthand (negated : Bool)
  /-- A place at the edge of a word, or inside or outside of one. -/
  | wordBoundary
  /-- The start or the end of the text. -/
  | anchor
deriving DecidableEq, Repr

/-! ### Escapes -/

/-- So many hexadecimal digits, and what follows them. -/
def hexDigits? (s : Switches) : Nat → List Char → Option (List Char × List Char)
  | 0, cs => some ([], cs)
  | n + 1, cs =>
    match s.skip cs with
    | c :: cs =>
      if (Text.hexDigit? c).isSome then
        (hexDigits? s n cs).map fun (digits, rest) => (c :: digits, rest)
      else none
    | [] => none

/-- The character of that number. -/
def numbered? (s : Switches) (digits : Nat) (cs : List Char) : Option (Element × List Char) := do
  let (digits, rest) ← hexDigits? s digits cs
  let c ← (Text.hexNatural? digits).bind Text.scalar?
  return (.character c (digits.length = 2), rest)

/-- The element that a backslash introduces, and what follows it. Of the other characters those of
ASCII stand for themselves that are neither letters nor digits. -/
def escape? (s : Switches) : List Char → Option (Element × List Char)
  | [] => none
  | 'x' :: cs => numbered? s 2 cs
  | 'u' :: cs => numbered? s 4 cs
  | 'U' :: cs => numbered? s 8 cs
  | 'a' :: cs => some (.character '\x07' false, cs)
  | 'f' :: cs => some (.character '\x0c' false, cs)
  | 't' :: cs => some (.character '\t' false, cs)
  | 'n' :: cs => some (.character '\n' false, cs)
  | 'r' :: cs => some (.character '\r' false, cs)
  | 'v' :: cs => some (.character '\x0b' false, cs)
  | c :: cs =>
    if ['d', 's', 'w'].contains c then some (.shorthand false, cs)
    else if ['D', 'S', 'W'].contains c then some (.shorthand true, cs)
    else if ['b', 'B', '<', '>'].contains c then some (.wordBoundary, cs)
    else if ['A', 'z'].contains c then some (.anchor, cs)
    else if c.toNat < 128 && !c.isAlphanum then some (.character c false, cs)
    else none

/-- The element in front, in which no character but the backslash has a meaning of its own. -/
def element? (s : Switches) : List Char → Option (Element × List Char)
  | [] => none
  | '\\' :: cs => escape? s cs
  | c :: cs => some (.character c false, cs)

/-! ### What can be matched -/

namespace Element

/-- The element can be matched on its own. -/
def standsAlone (s : Switches) : Element → Bool
  | character c numbered => if s.unicode then !s.anyCase else !numbered || c.toNat < 128
  | shorthand negated => !s.unicode && !negated
  | wordBoundary => true
  | anchor => true

/-- The element can be matched as a member of a class. -/
def standsInClass (s : Switches) : Element → Bool
  | character c _ => if s.unicode then !s.anyCase else c.toNat < 128
  | shorthand negated => !s.unicode && !negated
  | wordBoundary => false
  | anchor => false

end Element

end EditorSession.Pattern
