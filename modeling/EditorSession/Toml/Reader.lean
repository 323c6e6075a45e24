import EditorSession.Toml.Moment
import EditorSession.Toml.Number
import EditorSession.Toml.Table
import EditorSession.Toml.Text

/-! # Reading TOML documents

A document is a list of statements, each on lines of its own: a header, or keys with a value.
`parse` gives the members of the document, or nothing if the document is malformed.

The modules on TOML write down how the reader behind ortho_config, which is not part of this
library, reads a file, as far as observed. They belong to `Config.loader`: any other `Loader` may
read documents in another way, as long as an object names each of its members once. -/

namespace EditorSession.Toml

/-- At most so many brackets may be open at once, and at most so many keys may stand in a row. -/
def maxDepth : Nat := 79

/-! ### Values

Each function returns what it read and the characters after it. -/

/-- The characters of words: keywords, numbers, dates and times. -/
def isWord (c : Char) : Bool := c.isAlphanum || c = '+' || c = '-' || c = '.' || c = ':' || c = '_'

/-- The value that a word writes. -/
def wordValue? (word : List Char) : Option Json :=
  if word = ['t', 'r', 'u', 'e'] then some (.boolean true)
  else if word = ['f', 'a', 'l', 's', 'e'] then some (.boolean false)
  else if Moment.isMoment word then some (Moment.toJson word)
  else number? word

/-- A word, or a date and a time with a space between them. -/
def word (cs : List Char) : Option (Json × List Char) :=
  let first := cs.takeWhile isWord
  let rest := cs.dropWhile isWord
  match rest with
  | ' ' :: more =>
    let second := more.takeWhile isWord
    if Moment.isDate first ∧ Moment.isTimeWithOffset second then
      some (Moment.toJson (first ++ ' ' :: second), more.dropWhile isWord)
    else (wordValue? first).map fun value => (value, rest)
  | _ => (wordValue? first).map fun value => (value, rest)

/-- Items up to the closing bracket, with blanks, line ends and comments around them. A comma may
stand after the last one. -/
def items (item : List Char → Option (Json × List Char)) :
    Nat → List Char → Option (List Json × List Char)
  | 0, _ => none
  | fuel + 1, cs =>
    match skipLines false cs with
    | ']' :: cs => some ([], cs)
    | cs => do
      let (first, cs) ← item cs
      match skipLines false cs with
      | ',' :: cs =>
        let (rest, cs) ← items item fuel cs
        return (first :: rest, cs)
      | ']' :: cs => return ([first], cs)
      | _ => none

/-- Keys and a value with an equals sign between them. -/
def pair (value : List Char → Option (Json × List Char)) (cs : List Char) :
    Option ((List String × Json) × List Char) := do
  let (path, cs) ← keys maxDepth cs
  match cs with
  | '=' :: cs =>
    let (v, cs) ← value (skipBlanks cs)
    return ((path, v), cs)
  | _ => none

/-- Pairs up to the closing brace, all on one line. -/
def pairs (item : List Char → Option ((List String × Json) × List Char)) :
    Nat → List Char → Option (List (List String × Json) × List Char)
  | 0, _ => none
  | fuel + 1, cs => do
    let (first, cs) ← item cs
    match skipBlanks cs with
    | ',' :: cs =>
      let (rest, cs) ← pairs item fuel cs
      return (first :: rest, cs)
    | '\x7d' :: cs => return ([first], cs)
    | _ => none

/-- The table in braces, after the opening one. -/
def inlineTable (value : List Char → Option (Json × List Char)) (cs : List Char) :
    Option (Json × List Char) :=
  match skipBlanks cs with
  | '\x7d' :: cs => some (.object [], cs)
  | cs => do
    let (found, cs) ← pairs (pair value) (cs.length + 1) cs
    let members ← Members.ofPairs found
    return (.ofMembers (Members.toJson members), cs)

/-- The value in front, in which `room` more brackets may be open at once. -/
def value (room : Nat) (cs : List Char) : Option (Json × List Char) :=
  match quotedText? cs with
  | some spelled => spelled.map fun (text, rest) => (.string (String.ofList text), rest)
  | none =>
    match room, cs with
    | room + 1, '[' :: cs =>
      (items (value room) (cs.length + 1) cs).map fun (vs, rest) => (.array vs, rest)
    | room + 1, '\x7b' :: cs => inlineTable (value room) cs
    | _, cs => word cs

/-! ### Statements -/

/-- A statement of a document. -/
inductive Statement where
  /-- The header of a table. -/
  | table (keys : List String)
  /-- The header of one more table of an array. -/
  | element (keys : List String)
  | assignment (keys : List String) (value : Json)

/-- The statement in front, and what follows it on the line. -/
def statement (cs : List Char) : Option (Statement × List Char) :=
  match cs with
  | '[' :: '[' :: cs =>
    match keys maxDepth cs with
    | some (path, ']' :: ']' :: cs) => some (.element path, cs)
    | _ => none
  | '[' :: cs =>
    match keys maxDepth cs with
    | some (path, ']' :: cs) => some (.table path, cs)
    | _ => none
  | cs => (pair (value maxDepth) cs).map fun ((path, v), cs) => (.assignment path v, cs)

/-- The statements of a text. -/
def statements : Nat → List Char → Option (List Statement)
  | 0, _ => none
  | fuel + 1, cs =>
    match skipLines false cs with
    | [] => some []
    | cs => do
      let (first, cs) ← statement cs
      let cs ← restOfLine? cs
      let rest ← statements fuel cs
      return first :: rest

/-! ### Documents -/

/-- A document as far as it is built: its members, and the keys of the last header. -/
structure Draft where
  members : Members
  header : List String

/-- Carries out a statement. -/
def Draft.add (d : Draft) : Statement → Option Draft
  | .table keys => (Members.atLast Members.openTable keys d.members).map fun ms => ⟨ms, keys⟩
  | .element keys => (Members.atLast Members.addTable keys d.members).map fun ms => ⟨ms, keys⟩
  | .assignment keys value =>
    (Members.change (Members.assign value keys) d.header d.members).map fun ms => ⟨ms, d.header⟩

/-- The text without a byte order mark in front. -/
def dropOrderMark : List Char → List Char
  | c :: cs => if c = '\ufeff' then cs else c :: cs
  | [] => []

/-- The members of a document, in which every moment is one. -/
def parse (text : String) : Option (List (String × Json)) := do
  let cs := dropOrderMark text.toList
  let found ← statements (cs.length + 1) cs
  let draft ← found.foldlM Draft.add ⟨[], []⟩
  let members := Members.toJson draft.members
  if Moment.momentsSound (.ofMembers members) then return members else none

end EditorSession.Toml
