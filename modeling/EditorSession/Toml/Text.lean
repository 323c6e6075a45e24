import EditorSession.Text.Escaped
import EditorSession.Toml.Blank

/-! # Texts and keys

A text stands between double quotes, in which escapes are read, or between single quotes, in which
they are not. Three quotes open a text of several lines: a line end right after them does not count,
and up to two quotes may stand before the closing three.

This is how the TOML reader behind ortho_config reads a file, as far as observed. -/

namespace EditorSession.Toml

open Text (Spelled escaped isPlain numbered? unescape?)

/-! ### Texts on one line -/

/-- The text up to the closing single quote. -/
def literal : List Char → Spelled
  | [] => none
  | c :: cs =>
    if c = '\x27' then some ([], cs)
    else if isPlain c then (literal cs).cons (some c)
    else none

/-! ### Texts of several lines -/

/-- What a backslash at the end of a line swallows. -/
inductive Fold where
  /-- Nothing is swallowed. -/
  | off
  /-- Blanks up to the end of the line. -/
  | toLineEnd
  /-- Blanks and line ends up to the next other character. -/
  | toText
deriving DecidableEq, Repr

/-- The quotes of the text before its closing three, which are known to be there. -/
def closing (quote : Char) (cs : List Char) : List Char × List Char :=
  match cs with
  | a :: b :: rest =>
    if a = quote ∧ b = quote then ([quote, quote], rest)
    else if a = quote then ([quote], b :: rest)
    else ([], a :: b :: rest)
  | [a] => if a = quote then ([quote], []) else ([], [a])
  | [] => ([], [])

/-- The text with escapes up to three double quotes. -/
def longEscaped : Fold → List Char → Spelled
  | _, [] => none
  | .off, '\n' :: cs => (longEscaped .off cs).cons (some '\n')
  | .off, '\r' :: '\n' :: cs => (longEscaped .off cs).cons (some '\n')
  | _, '\n' :: cs => longEscaped .toText cs
  | _, '\r' :: '\n' :: cs => longEscaped .toText cs
  | .toLineEnd, c :: cs => if isBlank c then longEscaped .toLineEnd cs else none
  | _, '"' :: '"' :: '"' :: cs => some (closing '"' cs)
  | _, '\\' :: 'u' :: a :: b :: c :: d :: cs => (longEscaped .off cs).cons (numbered? [a, b, c, d])
  | _, '\\' :: 'U' :: a :: b :: c :: d :: e :: f :: g :: h :: cs =>
    (longEscaped .off cs).cons (numbered? [a, b, c, d, e, f, g, h])
  | _, '\\' :: '\n' :: cs => longEscaped .toText cs
  | _, '\\' :: '\r' :: '\n' :: cs => longEscaped .toText cs
  | _, '\\' :: c :: cs =>
    if isBlank c then longEscaped .toLineEnd cs else (longEscaped .off cs).cons (unescape? c)
  | fold, c :: cs =>
    if fold = .toText ∧ isBlank c then longEscaped .toText cs
    else if c ≠ '\\' ∧ isPlain c then (longEscaped .off cs).cons (some c)
    else none

/-- The text without escapes up to three single quotes. -/
def longLiteral : List Char → Spelled
  | [] => none
  | '\r' :: '\n' :: cs => (longLiteral cs).cons (some '\n')
  | '\x27' :: '\x27' :: '\x27' :: cs => some (closing '\x27' cs)
  | c :: cs => if c = '\n' ∨ isPlain c then (longLiteral cs).cons (some c) else none

/-- The characters after a line end that stands in front. -/
def dropLineEnd (cs : List Char) : List Char := (lineEnd? cs).getD cs

/-- The text that a quote opens, if one stands in front. -/
def quotedText? : List Char → Option Spelled
  | '"' :: '"' :: '"' :: cs => some (longEscaped .off (dropLineEnd cs))
  | '"' :: cs => some (escaped cs)
  | '\x27' :: '\x27' :: '\x27' :: cs => some (longLiteral (dropLineEnd cs))
  | '\x27' :: cs => some (literal cs)
  | _ => none

/-! ### Keys -/

/-- The characters of a key without quotes. -/
def isBare (c : Char) : Bool := c.isAlphanum || c = '_' || c = '-'

/-- A key, with quotes of one line or without, and the characters after it. -/
def key (cs : List Char) : Option (String × List Char) :=
  match cs with
  | '"' :: cs => (escaped cs).map fun (text, rest) => (String.ofList text, rest)
  | '\x27' :: cs => (literal cs).map fun (text, rest) => (String.ofList text, rest)
  | cs =>
    if (cs.takeWhile isBare).isEmpty then none
    else some (String.ofList (cs.takeWhile isBare), cs.dropWhile isBare)

/-- Keys between points and the characters after the blanks that follow, when there are at most as
many keys. -/
def keys : Nat → List Char → Option (List String × List Char)
  | 0, _ => none
  | most + 1, cs => do
    let (first, cs) ← key (skipBlanks cs)
    match skipBlanks cs with
    | '.' :: cs =>
      let (rest, cs) ← keys most cs
      return (first :: rest, cs)
    | cs => return ([first], cs)

end EditorSession.Toml
