import EditorSession.Decimal.Numeral
import EditorSession.Json.Basic
import EditorSession.Text.Blank
import EditorSession.Text.Bytes
import EditorSession.Text.Caseless
import EditorSession.Text.Escaped
import EditorSession.Text.Pieces

/-! # Values in shorthand

A variable of the environment holds a value in shorthand. Words need no quotes: `true` and `false`,
numbers, and all other words, which are strings. Brackets hold items, braces hold members such as `a
= 1`. A text that does not read as a value from its start to its end is a string as it stands, and a
text that is one boolean may have capitals. Before that, a text with a comma that does not open with
a quote or a bracket is a list of strings.

This is how the environment provider of ortho_config types the text of a variable, as far as
observed; it is not part of this library. It belongs to `Config.loader`. What is proved of loading
is proved of every `Loader` and rests on none of it. -/

namespace EditorSession.Shorthand

/-! ### Words -/

/-- Blanks between the marks. -/
def isBlank (c : Char) : Bool := c = ' ' || c = '\t' || c = '\n' || c = '\x0c' || c = '\r'

/-- The characters from the first that is not blank. -/
def skipBlanks (cs : List Char) : List Char := cs.dropWhile isBlank

/-- The marks at which a word ends. -/
def isMark (c : Char) : Bool := c = ',' || c = '[' || c = ']' || c = '\x7b' || c = '\x7d'

/-- The number that a numeral writes, if it is one. A numeral with a point needs a digit on one of
its sides, and is null beyond the finite range. An integer has no point and no exponent. -/
def number? (n : Numeral) : Option Json :=
  match n.fraction with
  | some fraction =>
    let mantissa := n.whole ++ fraction
    let exponent := n.exponent.map fun cs => (Numeral.unsigned cs).2
    if Numeral.isDigits mantissa ∧ exponent.all Numeral.isDigits then
      some ((n.double.map fun d => Json.number (.double d)).getD .null)
    else none
  | none =>
    if n.exponent = none ∧ Numeral.isDigits n.whole
        ∧ -Int.pow 2 63 ≤ n.integer ∧ n.integer < Int.pow 2 64 then
      some (.int n.integer)
    else none

/-- The value of a word: a number if it reads as one, a string otherwise. -/
def word (cs : List Char) : Json :=
  let text := Text.trim cs
  (number? (.ofChars text)).getD (.string (String.ofList text))

/-- The boolean in front, and what follows it. -/
def boolean? (cs : List Char) : Option (Bool × List Char) :=
  match ['t', 'r', 'u', 'e'].isPrefixOf? cs with
  | some rest => some (true, rest)
  | none => (['f', 'a', 'l', 's', 'e'].isPrefixOf? cs).map fun rest => (false, rest)

/-! ### Quoted text -/

/-- The characters before the first escape and before the end of a quoted text. -/
def unescapedFront (cs : List Char) : List Char := cs.takeWhile fun c => c ≠ '\\' ∧ c ≠ '"'

/-- The text up to the closing quote, and the characters after that. Before the first escape only as
many bytes count as there are characters. -/
def quotedText (cs : List Char) : Option (String × List Char) :=
  (Text.escaped cs).map fun (text, rest) =>
    let front := unescapedFront cs
    let kept := if (cs.drop front.length).head? = some '\\' then
        Text.takeBytes front.length front ++ text.drop front.length
      else text
    (String.ofList kept, rest)

/-! ### Brackets -/

/-! Each function returns what it read and the characters after it. -/

/-- Items up to the closing mark. A comma may stand after the last one. -/
def items {α : Type} (close : Char) (item : List Char → Option (α × List Char)) :
    Nat → List Char → Option (List α × List Char)
  | 0, _ => none
  | fuel + 1, cs =>
    if cs.head? = some close then some ([], cs.tail)
    else do
      let (first, cs) ← item cs
      match cs with
      | ',' :: cs =>
        let (rest, cs) ← items close item fuel cs
        return (first :: rest, cs)
      | c :: cs => if c = close then return ([first], cs) else none
      | [] => none

/-- The characters of a name without quotes. -/
def isBare (c : Char) : Bool := c.isAlphanum || c = '_' || c = '-'

/-- The name of a member, with or without quotes. -/
def name (cs : List Char) : Option (String × List Char) :=
  match cs with
  | '"' :: cs => quotedText cs
  | cs =>
    if (cs.takeWhile isBare).isEmpty then none
    else some (String.ofList (cs.takeWhile isBare), cs.dropWhile isBare)

/-- A name and a value with an equals sign between them. -/
def member (value : List Char → Option (Json × List Char)) (cs : List Char) :
    Option ((String × Json) × List Char) := do
  let (key, cs) ← name (skipBlanks cs)
  match skipBlanks cs with
  | '=' :: cs =>
    let (v, cs) ← value cs
    return ((key, v), cs)
  | _ => none

/-- A value between blanks, in which brackets may be nested `room` deep. -/
def value (room : Nat) (cs : List Char) : Option (Json × List Char) :=
  let cs := skipBlanks cs
  let found : Option (Json × List Char) :=
    match boolean? cs with
    | some (b, rest) => some (.boolean b, rest)
    | none =>
      match room, cs with
      | _, '"' :: cs => (quotedText cs).map fun (text, rest) => (.string text, rest)
      | _, '\x27' :: c :: '\x27' :: rest => some (.string c.toString, rest)
      | _, '\x27' :: _ => none
      | room + 1, '[' :: cs =>
        (items ']' (value room) (cs.length + 1) cs).map fun (vs, rest) => (.array vs, rest)
      | room + 1, '\x7b' :: cs =>
        (items '\x7d' (member (value room)) (cs.length + 1) cs).map fun (ms, rest) =>
          (.ofMembers ms, rest)
      | _, cs => some (word (cs.takeWhile fun c => !isMark c), cs.dropWhile fun c => !isMark c)
  found.map fun (v, rest) => (v, skipBlanks rest)

/-! ### Texts -/

/-- The value of a whole text, in which capitals do not hide a boolean. -/
def whole (cs : List Char) : Json :=
  match boolean? (Text.lower cs) with
  | some (b, []) => .boolean b
  | _ =>
    match value cs.length cs with
    | some (v, []) => v
    | _ => .string (String.ofList cs)

/-- A text that opens with one of these marks is never a plain list. -/
def opensValue (cs : List Char) : Bool :=
  match cs.head? with
  | some c => c = '[' || c = '\x7b' || c = '"' || c = '\x27'
  | none => false

/-- The value of a text, whose outer blanks do not count. -/
def read (text : String) : Json :=
  let cs := Text.trim text.toList
  if cs.contains ',' && !opensValue cs then
    .array ((Text.pieces ',' cs).map fun piece => .string (String.ofList (Text.trim piece)))
  else whole cs

end EditorSession.Shorthand
