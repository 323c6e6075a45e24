import EditorSession.Pattern.Element

/-! # Classes of characters

A class stands in brackets: characters, ranges of characters, classes with a name and other classes,
and between two such unions an operation on sets. `class?` reads a class and says how deep it is
nested, where a union of several members and an operation count as one level each. -/

namespace EditorSession.Pattern

/-! ### Members -/

/-- The classes with a name. -/
def classNames : List (List Char) :=
  ["alnum", "alpha", "ascii", "blank", "cntrl", "digit", "graph", "lower", "print", "punct",
    "space", "upper", "word", "xdigit"].map String.toList

/-- What follows a class with a name, of which the first bracket has been read, and whether it is
negated. -/
def namedClass? : List Char → Option (Bool × List Char)
  | ':' :: cs =>
    let negated := cs.head? = some '^'
    let cs := if negated then cs.drop 1 else cs
    match cs.dropWhile (· ≠ ':') with
    | ':' :: ']' :: rest =>
      if classNames.contains (cs.takeWhile (· ≠ ':')) then some (negated, rest) else none
    | _ => none
  | _ => none

/-- A class with a name can be matched. -/
def namedStands (s : Switches) (negated : Bool) : Bool := if s.unicode then !s.anyCase else !negated

/-- What follows a range or a single element. A hyphen before a bracket or a second hyphen makes no
range. -/
def afterRange? (s : Switches) (cs : List Char) : Option (List Char) := do
  let (low, cs) ← element? s cs
  let cs := s.skip cs
  let next := s.glance (cs.drop 1)
  if cs.head? = some '-' && next ≠ some ']' && next ≠ some '-' then
    let (high, rest) ← element? s (s.skip (cs.drop 1))
    match low, high with
    | .character c _, .character d _ =>
      if c ≤ d && low.standsInClass s && high.standsInClass s then some rest else none
    | _, _ => none
  else if low.standsInClass s then some cs
  else none

/-! ### Brackets -/

/-- An open bracket: the members of the union that is being read and how deep they are nested, and
how deep the operand before it is. -/
structure Bracket where
  members : Nat := 0
  depth : Nat := 0
  operand : Option Nat := none
  /-- Only hyphens have been read. They stand for themselves here, as does a closing bracket without
  any before it. -/
  fresh : Bool := true
deriving DecidableEq, Repr

namespace Bracket

/-- One more member. -/
def add (b : Bracket) (depth : Nat) : Bracket :=
  { b with members := b.members + 1, depth := max b.depth depth, fresh := false }

/-- How deep all that has been read is nested. -/
def total (b : Bracket) : Nat :=
  let union := if 2 ≤ b.members then b.depth + 1 else b.depth
  match b.operand with
  | none => union
  | some before => max before union + 1

/-- What has been read as the operand of an operation. -/
def operate (b : Bracket) : Bracket := { operand := some b.total, fresh := false }

end Bracket

/-- What follows the caret of a class of all others. Bytes have no such class. -/
def afterCaret? (s : Switches) (cs : List Char) : Option (List Char) :=
  match s.skip cs with
  | '^' :: cs => if s.unicode then some cs else none
  | cs => some cs

/-- Reads brackets, of which the first has been read. Returns how deep they are nested, and what
follows them. -/
def brackets? (s : Switches) : Nat → List Char → Bracket → List Bracket →
    Option (Nat × List Char)
  | 0, _, _, _ => none
  | fuel + 1, cs, b, outer =>
    match s.skip cs with
    | [] => none
    | c :: cs =>
      if b.fresh && (c = '-' || (c = ']' && b.members = 0)) then
        if (Element.character c false).standsInClass s then
          brackets? s fuel cs { b.add 0 with fresh := c = '-' } outer
        else none
      else match c, cs with
        | '[', cs =>
          match namedClass? cs with
          | some (negated, rest) =>
            if namedStands s negated then brackets? s fuel rest (b.add 0) outer else none
          | none => do brackets? s fuel (← afterCaret? s cs) {} (b :: outer)
        | ']', cs =>
          match outer with
          | [] => some (b.total + 1, cs)
          | around :: outer => brackets? s fuel cs (around.add (b.total + 1)) outer
        | '&', '&' :: cs | '-', '-' :: cs | '~', '~' :: cs => brackets? s fuel cs b.operate outer
        | c, cs => do brackets? s fuel (← afterRange? s (c :: cs)) (b.add 0) outer

/-- Reads a class, of which the first bracket has been read. -/
def class? (s : Switches) (cs : List Char) : Option (Nat × List Char) := do
  let cs ← afterCaret? s cs
  brackets? s (cs.length + 1) cs {} []

end EditorSession.Pattern
