import EditorSession.Json.Basic

/-! # Outlines

The outline of a text is what its brackets, names and literals say before any of it is given a
meaning. Members stand in the order of the text and may repeat a name, and where the text goes
astray or ends too early the outline stops with a break. A walk through an outline therefore meets
faults of form and faults of meaning in the order of the text.

Some literals are faults only for a reader who wants their value: a string with half a surrogate
pair and a number beyond the finite range are kept as literals without a value.

Of serde_json it is assumed that a value which nobody asks for is passed over without a limit of
depth and without looking at what its literals mean. -/

namespace EditorSession.Json

/-- What is wrong with the form of a text. -/
inductive Defect where
  /-- The text goes astray. -/
  | malformed
  /-- The text ends inside a value. -/
  | truncated
deriving DecidableEq, Repr

/-- The defect that a break is, for one who reads the literal there and for one who skips it. -/
structure Break where
  read : Defect
  skipped : Defect
deriving DecidableEq, Repr

/-- A break that is the same defect for both. -/
def Break.plain (defect : Defect) : Break := ⟨defect, defect⟩

/-- What had begun where a value breaks off. -/
inductive Begun where
  | nothing
  /-- A keyword or a number. -/
  | word
  /-- A quoted text. -/
  | quote
deriving DecidableEq, Repr

/-- How the list of items or members inside a bracket ends. -/
inductive Tail where
  /-- With the closing bracket. -/
  | closed
  /-- With a break where a comma or the closing bracket should be. -/
  | unclosed (defect : Defect)
  /-- With a break where a member's name should be. -/
  | nameless (defect : Break)
deriving DecidableEq, Repr

/-- A value as the text shows it. -/
inductive Outline where
  | null
  | boolean (value : Bool)
  | number (value : Option Number)
  | string (value : Option String)
  | array (items : List Outline) (tail : Tail)
  | object (members : List (Option String × Outline)) (tail : Tail)
  | broken (begun : Begun) (defect : Break)
deriving Repr

namespace Tail

/-- The defect at the end, for one who reads. -/
def defect? : Tail → Option Defect
  | closed => none
  | unclosed defect => some defect
  | nameless defect => some defect.read

/-- The defect at the end, for one who skips. -/
def skippedDefect? : Tail → Option Defect
  | closed => none
  | unclosed defect => some defect
  | nameless defect => some defect.skipped

end Tail

/-- Nothing, or the defect. -/
def Defect.orElse : Option Defect → Except Defect Unit
  | none => .ok ()
  | some defect => .error defect

namespace Outline

/-! ### The value of an outline -/

/-- The value of a literal, if it has one. -/
def literal {α : Type} : Option α → Except Defect α
  | some value => .ok value
  | none => .error .malformed

mutual
/-- The value that an outline shows when at most `room` brackets may be open at once. -/
def value? (room : Nat) : Outline → Except Defect Json
  | null => .ok .null
  | boolean b => .ok (.boolean b)
  | number n => (literal n).map .number
  | string s => (literal s).map .string
  | array items tail =>
    match room with
    | 0 => .error .malformed
    | room + 1 => (itemValues room items tail).map .array
  | object members tail =>
    match room with
    | 0 => .error .malformed
    | room + 1 => (memberValues room members tail []).map .object
  | broken _ defect => .error defect.read

/-- The values of the items. -/
def itemValues (room : Nat) : List Outline → Tail → Except Defect (List Json)
  | [], tail => (Defect.orElse tail.defect?).map fun _ => []
  | item :: rest, tail => do
    let first ← item.value? room
    let others ← itemValues room rest tail
    return first :: others

/-- The members, added to those that came before. -/
def memberValues (room : Nat) : List (Option String × Outline) → Tail → List (String × Json) →
    Except Defect (List (String × Json))
  | [], tail, members => (Defect.orElse tail.defect?).map fun _ => members
  | (name, value) :: rest, tail, members => do
    let name ← literal name
    let value ← value.value? room
    memberValues room rest tail (insert name value members)
end

/-! ### Skipping -/

mutual
/-- The defect that one meets who passes over the outline, at any depth. -/
def skip : Outline → Except Defect Unit
  | null | boolean _ | number _ | string _ => .ok ()
  | array items tail => skipItems items tail
  | object members tail => skipMembers members tail
  | broken _ defect => .error defect.skipped

/-- Passes over items. -/
def skipItems : List Outline → Tail → Except Defect Unit
  | [], tail => Defect.orElse tail.skippedDefect?
  | item :: rest, tail => do
    item.skip
    skipItems rest tail

/-- Passes over members. -/
def skipMembers : List (Option String × Outline) → Tail → Except Defect Unit
  | [], tail => Defect.orElse tail.skippedDefect?
  | (_, value) :: rest, tail => do
    value.skip
    skipMembers rest tail
end

/-! ### Depth -/

mutual
/-- The number of brackets that are open at once in the deepest place. -/
def depth : Outline → Nat
  | array items _ => itemsDepth items + 1
  | object members _ => membersDepth members + 1
  | null | boolean _ | number _ | string _ | broken .. => 0

/-- The depth of the deepest item. -/
def itemsDepth : List Outline → Nat
  | [] => 0
  | item :: rest => max item.depth (itemsDepth rest)

/-- The depth of the deepest member. -/
def membersDepth : List (Option String × Outline) → Nat
  | [] => 0
  | (_, value) :: rest => max value.depth (membersDepth rest)
end

/-! ### The outline of a value -/

mutual
/-- The outline of a value, in which nothing is broken. -/
def ofValue : Json → Outline
  | .null => null
  | .boolean b => boolean b
  | .number n => number (some n)
  | .string s => string (some s)
  | .array items => array (ofItems items) .closed
  | .object members => object (ofMembers members) .closed

/-- The outlines of items. -/
def ofItems : List Json → List Outline
  | [] => []
  | item :: rest => ofValue item :: ofItems rest

/-- The outlines of members. -/
def ofMembers : List (String × Json) → List (Option String × Outline)
  | [] => []
  | (name, value) :: rest => (some name, ofValue value) :: ofMembers rest
end

end Outline

end EditorSession.Json
