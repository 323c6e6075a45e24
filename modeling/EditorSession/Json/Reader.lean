import EditorSession.Json.Literal

/-! # Reading JSON text

`Outline.ofText` turns a text into the outline of its first value and the characters after it.
Brackets may be nested to any depth; a depth limit is a matter for whoever asks for the value.

The grammar is that of JSON, with the four blanks it knows. What is assumed of serde_json, whose
reader is not part of this library, is that it reads texts by this grammar, stops at the first place
where a text goes astray, and tells a text that ends too early from one that is malformed. -/

namespace EditorSession.Json

namespace Outline

/-! ### Blanks -/

/-- Space, tab, line feed and carriage return separate the marks of a text. -/
def isBlank (c : Char) : Bool := c = ' ' || c = '\t' || c = '\n' || c = '\r'

/-- The characters from the first that is not blank. -/
def skipBlanks (cs : List Char) : List Char := cs.dropWhile isBlank

/-! ### Values

Each function returns what it read and the characters that follow, or no characters if it met a
break, after which nothing is read. -/

/-- The outline of a scanned literal. -/
def ofScan {α : Type} (begun : Begun) (build : α → Outline) :
    Literal.Scan α → Outline × Option (List Char)
  | .ok (value, rest) => (build value, some rest)
  | .error defect => (broken begun defect, none)

/-- The outline of a keyword whose first character was read. -/
def ofKeyword (value : Outline) : Except Break (List Char) → Outline × Option (List Char)
  | .ok rest => (value, some rest)
  | .error defect => (broken .word defect, none)

mutual
/-- Reads a value. The fuel bounds the brackets and commas that are met. -/
def readValue (fuel : Nat) (cs : List Char) : Outline × Option (List Char) :=
  match fuel with
  | 0 => (broken .nothing (.plain .truncated), none)
  | fuel + 1 =>
    match skipBlanks cs with
    | [] => (broken .nothing (.plain .truncated), none)
    | 'n' :: cs => ofKeyword null (Literal.keyword ['u', 'l', 'l'] cs)
    | 't' :: cs => ofKeyword (boolean true) (Literal.keyword ['r', 'u', 'e'] cs)
    | 'f' :: cs => ofKeyword (boolean false) (Literal.keyword ['a', 'l', 's', 'e'] cs)
    | '"' :: cs => ofScan .quote string (Literal.quoted cs)
    | '[' :: cs =>
      match skipBlanks cs with
      | ']' :: cs => (array [] .closed, some cs)
      | [] => (array [] (.unclosed .truncated), none)
      | cs => let (items, tail, rest) := readItems fuel cs; (array items tail, rest)
    | '{' :: cs =>
      match skipBlanks cs with
      | '}' :: cs => (object [] .closed, some cs)
      | cs => let (members, tail, rest) := readMembers fuel cs; (object members tail, rest)
    | c :: cs =>
      if c = '-' ∨ c.isDigit then ofScan .word number (Literal.numeral (c :: cs))
      else (broken .nothing (.plain .malformed), none)

/-- Reads items from the start of one of them. -/
def readItems (fuel : Nat) (cs : List Char) : List Outline × Tail × Option (List Char) :=
  match fuel with
  | 0 => ([], .unclosed .truncated, none)
  | fuel + 1 =>
    match readValue fuel cs with
    | (item, none) => ([item], .closed, none)
    | (item, some cs) =>
      match skipBlanks cs with
      | ']' :: cs => ([item], .closed, some cs)
      | ',' :: cs => let (items, tail, rest) := readItems fuel cs; (item :: items, tail, rest)
      | [] => ([item], .unclosed .truncated, none)
      | _ :: _ => ([item], .unclosed .malformed, none)

/-- Reads members from the start of a name. -/
def readMembers (fuel : Nat) (cs : List Char) :
    List (Option String × Outline) × Tail × Option (List Char) :=
  match fuel with
  | 0 => ([], .unclosed .truncated, none)
  | fuel + 1 =>
    match skipBlanks cs with
    | [] => ([], .nameless (.plain .truncated), none)
    | '"' :: cs =>
      match Literal.quoted cs with
      | .error defect => ([], .nameless defect, none)
      | .ok (name, cs) =>
        match skipBlanks cs with
        | [] => ([(name, broken .nothing (.plain .truncated))], .closed, none)
        | ':' :: cs =>
          match readValue fuel cs with
          | (value, none) => ([(name, value)], .closed, none)
          | (value, some cs) =>
            match skipBlanks cs with
            | '}' :: cs => ([(name, value)], .closed, some cs)
            | ',' :: cs =>
              let (members, tail, rest) := readMembers fuel cs
              ((name, value) :: members, tail, rest)
            | [] => ([(name, value)], .unclosed .truncated, none)
            | _ :: _ => ([(name, value)], .unclosed .malformed, none)
        | _ :: _ => ([(name, broken .nothing (.plain .malformed))], .closed, none)
    | _ :: _ => ([], .nameless (.plain .malformed), none)
end

/-! ### Texts -/

/-- Enough fuel for the characters: every bracket takes two units, one for itself and one for what
is inside. -/
def fuelFor (cs : List Char) : Nat := 2 * cs.length + 1

/-- The outline of the first value of a text, and the characters after it unless it is broken. -/
def ofText (text : String) : Outline × Option (List Char) :=
  readValue (fuelFor text.toList) text.toList

/-- Only blanks follow a value. -/
def onlyBlanks : Option (List Char) → Bool
  | none => true
  | some rest => rest.all isBlank

end Outline

/-- The value of a text, in which at most 127 brackets may be open at once. -/
def parse (text : String) : Except Defect Json :=
  let (outline, rest) := Outline.ofText text
  match outline.value? 127 with
  | .error defect => .error defect
  | .ok value => if Outline.onlyBlanks rest then .ok value else .error .malformed

end EditorSession.Json
