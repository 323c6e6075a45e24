import EditorSession.Text.Blank

/-! # Blanks, line ends and comments

A line ends with a line feed, before which a carriage return may stand. A comment reaches from a
number sign to the end of its line and holds no control other than the tab.

This is how the TOML reader behind ortho_config reads a file, as far as observed. -/

namespace EditorSession.Toml

open Text (isPlain)

/-- A space or a tab. -/
def isBlank (c : Char) : Bool := c = ' ' || c = '\t'

/-- The characters from the first that is no blank. -/
def skipBlanks (cs : List Char) : List Char := cs.dropWhile isBlank

/-- What follows the end of a line, if the line ends here. -/
def lineEnd? : List Char → Option (List Char)
  | '\n' :: cs => some cs
  | '\r' :: '\n' :: cs => some cs
  | _ => none

/-- The characters after the comment, if there is one. -/
def skipComment : List Char → List Char
  | '#' :: cs => cs.dropWhile isPlain
  | cs => cs

/-- What follows the rest of a line that holds blanks and a comment at most; a text may end without
a line end. -/
def restOfLine? (cs : List Char) : Option (List Char) :=
  match skipComment (skipBlanks cs) with
  | [] => some []
  | cs => lineEnd? cs

/-- The characters from the first that belongs to no blank, line end or comment; a control that no
comment may hold counts as such a character. -/
def skipLines : Bool → List Char → List Char
  | _, [] => []
  | _, '\n' :: cs => skipLines false cs
  | _, '\r' :: '\n' :: cs => skipLines false cs
  | true, c :: cs => if isPlain c then skipLines true cs else c :: cs
  | false, c :: cs =>
    if isBlank c then skipLines false cs
    else if c = '#' then skipLines true cs
    else c :: cs

end EditorSession.Toml
