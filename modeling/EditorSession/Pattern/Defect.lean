import EditorSession.Pattern.Class
import EditorSession.Text.Alphanumeric

/-! # Patterns with a defect

`Pattern.defect?` reads a pattern and says what is wrong with it. What the pattern matches is of no
interest here.

The modules on patterns write down which patterns `EnvFilter` of tracing-subscriber is assumed to
refuse, and why. -/

namespace EditorSession.Pattern

/-- What is wrong with a pattern. -/
inductive Defect where
  | malformed
  /-- It asks for the edges of words as Unicode knows them. -/
  | unicodeBoundary
deriving DecidableEq, Repr

/-- The text of a defect. -/
def Defect.message : Defect → String
  | malformed => "error building NFA"
  | unicodeBoundary =>
    "unsupported regex feature for DFAs: cannot build DFAs for regexes with Unicode word "
      ++ "boundaries; switch to ASCII word boundaries, or heuristically enable Unicode word "
      ++ "boundaries or use a different regex engine"

/-- How deep a pattern may be nested. -/
def maxDepth : Nat := 250

/-! ### Groups -/

/-- An open group: what has been read of its last branch, and how deep the branches before it are
nested. A branch of several items counts as one level, and so do several branches. -/
structure Group where
  /-- The switches in force around the group. -/
  around : Switches := {}
  items : Nat := 0
  depth : Nat := 0
  /-- How deep the last item is nested, if it is one that can be repeated. -/
  last : Option Nat := none
  branches : Option Nat := none
deriving DecidableEq, Repr

namespace Group

/-- One more item. -/
def add (g : Group) (depth : Nat) : Group :=
  { g with items := g.items + 1, depth := max g.depth depth, last := some depth }

/-- One more item, which only sets switches. -/
def addFlags (g : Group) : Group := { g with items := g.items + 1, last := none }

/-- The last item is repeated. -/
def repeatLast? (g : Group) : Option Group :=
  g.last.map fun depth => { g with depth := max g.depth (depth + 1), last := some (depth + 1) }

/-- How deep the last branch is nested. -/
def branchDepth (g : Group) : Nat := if 2 ≤ g.items then g.depth + 1 else g.depth

/-- One more branch. -/
def branch (g : Group) : Group :=
  { around := g.around, branches := some (max (g.branches.getD 0) g.branchDepth) }

/-- How deep all that has been read is nested. -/
def total (g : Group) : Nat :=
  match g.branches with
  | none => g.branchDepth
  | some before => max before g.branchDepth + 1

end Group

/-- What an opening parenthesis introduces. -/
inductive Opening where
  /-- Flags for the rest of the group around. -/
  | flags (switches : Switches)
  | group (switches : Switches) (name : Option (List Char))
deriving DecidableEq, Repr

/-- A character of the name of a group. -/
def isName (c : Char) : Bool := Text.isAlphanumeric c || ['_', '.', '[', ']'].contains c

/-- The name of a group, which begins with a letter or an underscore, and what follows its bracket.
-/
def groupName? (cs : List Char) : Option (List Char × List Char) :=
  let name := cs.takeWhile isName
  match cs.dropWhile isName with
  | '>' :: rest =>
    if name.head?.any fun c => c = '_' || Text.isAlphabetic c then some (name, rest) else none
  | _ => none

/-- What the parenthesis before the characters introduces. A group that looks ahead or behind is
none: neither its mark is a flag, nor does a name begin with it. -/
def opening? (s : Switches) (cs : List Char) : Option (Opening × List Char) :=
  match s.skip cs with
  | '?' :: 'P' :: '<' :: cs | '?' :: '<' :: cs =>
    (groupName? cs).map fun (name, rest) => (.group s name, rest)
  | '?' :: cs =>
    (flags? s [] cs).map fun (s, opens, rest) => (if opens then .group s none else .flags s, rest)
  | cs => some (.group s none, cs)

/-! ### Whole patterns -/

/-- A pattern as far as it has been read. -/
structure Draft where
  switches : Switches := {}
  group : Group := {}
  /-- The groups around, the innermost first. -/
  outer : List Group := []
  names : List (List Char) := []
  unicodeBoundary : Bool := false
deriving DecidableEq, Repr

namespace Draft

/-- One more item. -/
def add (d : Draft) (depth : Nat) : Draft := { d with group := d.group.add depth }

/-- One more element, if it can be matched. -/
def addElement? (d : Draft) (element : Element) : Option Draft :=
  if element.standsAlone d.switches then
    some { d.add 0 with
      unicodeBoundary := d.unicodeBoundary || (element = .wordBoundary && d.switches.unicode) }
  else none

/-- What an opening parenthesis introduces is read next. No two groups have the same name. -/
def openGroup? (d : Draft) : Opening → Option Draft
  | .flags s => some { d with switches := s, group := d.group.addFlags }
  | .group s name =>
    if name.any d.names.contains then none
    else some { d with
      switches := s
      group := { around := d.switches }
      outer := d.group :: d.outer
      names := name.toList ++ d.names }

/-- The innermost group is complete. -/
def closeGroup? (d : Draft) : Option Draft :=
  match d.outer with
  | [] => none
  | g :: outer =>
    some { d with
      switches := d.group.around
      group := g.add (d.group.total + 1)
      outer }

/-- Nothing is left open, and the pattern is not nested too deep. -/
def isComplete (d : Draft) : Bool := d.outer.isEmpty && d.group.total ≤ maxDepth

/-- Reads the rest of a pattern. A number of repetitions would need a closing brace, which does not
occur in the patterns of this program. -/
def read? : Nat → List Char → Draft → Option Draft
  | 0, _, _ => none
  | fuel + 1, cs, d =>
    match d.switches.skip cs with
    | [] => if d.isComplete then some d else none
    | '(' :: cs => do
      let (opening, cs) ← opening? d.switches cs
      read? fuel cs (← d.openGroup? opening)
    | ')' :: cs => do read? fuel cs (← d.closeGroup?)
    | '|' :: cs => read? fuel cs { d with group := d.group.branch }
    | '[' :: cs => do
      let (depth, cs) ← class? d.switches cs
      read? fuel cs (d.add depth)
    | '*' :: cs | '+' :: cs | '?' :: cs => do
      let group ← d.group.repeatLast?
      read? fuel (if cs.head? = some '?' then cs.drop 1 else cs) { d with group }
    | '\x7b' :: _ => none
    | '.' :: cs => if d.switches.unicode then read? fuel cs (d.add 0) else none
    | '^' :: cs | '$' :: cs => read? fuel cs (d.add 0)
    | cs => do
      let (element, cs) ← element? d.switches cs
      read? fuel cs (← d.addElement? element)

end Draft

/-- What is wrong with a pattern, if anything is. -/
def defect? (cs : List Char) : Option Defect :=
  match Draft.read? (cs.length + 1) cs {} with
  | none => some .malformed
  | some d => if d.unicodeBoundary then some .unicodeBoundary else none

end EditorSession.Pattern
