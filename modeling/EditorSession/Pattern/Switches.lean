import EditorSession.Text.Blank

/-! # Switches of a pattern

A pattern is a regular expression. Flags in it turn switches on and off, for the rest of a group or
for a group of their own. Three of the switches decide whether a pattern is well formed, and these
are kept. -/

namespace EditorSession.Pattern

/-- The switches in force at a place of a pattern. -/
structure Switches where
  /-- Letters stand for their other case too. -/
  anyCase : Bool := false
  /-- The pattern speaks about characters of Unicode, and not about single bytes. -/
  unicode : Bool := true
  /-- Blanks and comments stand for nothing. -/
  spaced : Bool := false
deriving DecidableEq, Repr

/-! ### Flags -/

/-- The characters of flags. All after the hyphen are turned off. -/
def flagCharacters : List Char := ['-', 'i', 'm', 's', 'U', 'u', 'R', 'x']

/-- The switches after a flag. -/
def Switches.set (s : Switches) (flag : Char) (on : Bool) : Switches :=
  match flag with
  | 'i' => { s with anyCase := on }
  | 'u' => { s with unicode := on }
  | 'x' => { s with spaced := on }
  | _ => s

/-- Reads flags up to a colon, which opens a group of their own, or to a closing parenthesis, before
which there is at least one flag. Returns the switches, whether a group is opened, and the rest. The
flags met before, the last one first, do not come again, and the hyphen is not the last of them. -/
def flags? (s : Switches) (met : List Char) : List Char → Option (Switches × Bool × List Char)
  | [] => none
  | c :: cs =>
    if c = ':' then if met.head? = some '-' then none else some (s, true, cs)
    else if c = ')' then
      if met.head? = some '-' || met.isEmpty then none else some (s, false, cs)
    else if met.contains c || !flagCharacters.contains c then none
    else flags? (s.set c !(met.contains '-')) (c :: met) cs

/-! ### Blanks and comments -/

/-- What follows blanks and comments. A comment goes from a hash to the end of the line. -/
def skipComments (inside : Bool) : List Char → List Char
  | [] => []
  | c :: cs =>
    if inside then skipComments (c ≠ '\n') cs
    else if c = '#' then skipComments true cs
    else if Text.isBlank c then skipComments false cs
    else c :: cs

namespace Switches

/-- What follows what stands for nothing. -/
def skip (s : Switches) (cs : List Char) : List Char :=
  if s.spaced then skipComments false cs else cs

/-- The next character but for blanks. After a hash it is the first character of the comment. -/
def glance (s : Switches) (cs : List Char) : Option Char :=
  if s.spaced then
    match cs.dropWhile Text.isBlank with
    | '#' :: comment => (comment.dropWhile Text.isBlank).head?
    | rest => rest.head?
  else cs.head?

end Switches

end EditorSession.Pattern
