import EditorSession.Decimal.Numeral
import EditorSession.Json.Basic

/-! # Dates and times

A moment is a date, a time of day, or both with or without an offset. Its value is an object whose
one member, under `Moment.key`, is its text.

This is how the TOML reader behind ortho_config reads a file, as far as observed. -/

namespace EditorSession.Toml.Moment

/-- The name of the one member of a moment. -/
def key : String := "$__toml_private_datetime"

/-- The value of a moment. -/
def toJson (text : List Char) : Json := .object [(key, .string (String.ofList text))]

/-! ### Fields -/

/-- The number of so many digits in front, if it lies in the range, and what follows them. -/
def field? (width first last : Nat) (cs : List Char) : Option (Nat × List Char) :=
  let digits := cs.take width
  let n := Numeral.natural digits
  if digits.length = width ∧ digits.all Char.isDigit ∧ first ≤ n ∧ n ≤ last then
    some (n, cs.drop width)
  else none

/-- What follows the mark, if it stands in front. -/
def mark? (mark : Char) : List Char → Option (List Char)
  | [] => none
  | c :: cs => if c = mark then some cs else none

/-- A year has a day more than others when four divides it, but not in a century that four does not
divide. -/
def isLeap (year : Nat) : Bool := year % 4 = 0 && (year % 100 ≠ 0 || year % 400 = 0)

/-- The number of days in a month. -/
def days (year month : Nat) : Nat :=
  if month = 2 then (if isLeap year then 29 else 28)
  else if month = 4 ∨ month = 6 ∨ month = 9 ∨ month = 11 then 30
  else 31

/-! ### Dates, times and offsets -/

/-- What follows the date in front. -/
def date? (cs : List Char) : Option (List Char) := do
  let (year, cs) ← field? 4 0 9999 cs
  let (month, cs) ← field? 2 1 12 (← mark? '-' cs)
  let (_, cs) ← field? 2 1 (days year month) (← mark? '-' cs)
  return cs

/-- What follows the fraction of a second, if a point stands in front. -/
def fraction? : List Char → Option (List Char)
  | '.' :: cs =>
    if (cs.takeWhile Char.isDigit).isEmpty then none else some (cs.dropWhile Char.isDigit)
  | cs => some cs

/-- What follows the time of day in front. -/
def time? (cs : List Char) : Option (List Char) := do
  let (_, cs) ← field? 2 0 23 cs
  let (_, cs) ← field? 2 0 59 (← mark? ':' cs)
  let (_, cs) ← field? 2 0 60 (← mark? ':' cs)
  fraction? cs

/-- The text is empty or an offset. -/
def isOffset : List Char → Bool
  | [] => true
  | c :: cs =>
    if c = 'Z' ∨ c = 'z' then cs.isEmpty
    else if c = '+' ∨ c = '-' then
      match field? 2 0 23 cs with
      | some (_, ':' :: cs) => (field? 2 0 59 cs).any fun (_, cs) => cs.isEmpty
      | _ => false
    else false

/-! ### Moments -/

/-- The text is a date. -/
def isDate (cs : List Char) : Bool := date? cs = some []

/-- The text is a time of day. -/
def isTime (cs : List Char) : Bool := time? cs = some []

/-- The text is a time of day with or without an offset. -/
def isTimeWithOffset (cs : List Char) : Bool := (time? cs).any isOffset

/-- The text is a date, a time, or a date and a time with the letter T or a space between them. -/
def isMoment (cs : List Char) : Bool :=
  isTime cs || match date? cs with
    | some [] => true
    | some (c :: cs) => (c = 'T' || c = 't' || c = ' ') && isTimeWithOffset cs
    | none => false

/-! ### Values with moments -/

mutual
/-- Every object whose first member has the key of a moment holds the text of a moment there. What
else such an object holds does not matter. -/
def momentsSound : Json → Bool
  | .array items => momentsSoundItems items
  | .object ((name, value) :: rest) =>
    if name = key then value.string?.any fun text => isMoment text.toList
    else momentsSound value && momentsSoundMembers rest
  | _ => true

/-- All items have sound moments. -/
def momentsSoundItems : List Json → Bool
  | [] => true
  | item :: rest => momentsSound item && momentsSoundItems rest

/-- All members have sound moments. -/
def momentsSoundMembers : List (String × Json) → Bool
  | [] => true
  | (_, value) :: rest => momentsSound value && momentsSoundMembers rest
end

end EditorSession.Toml.Moment
