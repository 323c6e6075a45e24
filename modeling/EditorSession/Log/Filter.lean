import EditorSession.Decimal.Numeral
import EditorSession.Log.Event
import EditorSession.Log.Field
import EditorSession.Text.Blank
import EditorSession.Text.Bytes

/-! # Log filters

A filter is a list of directives between commas. A directive is a level, a target, or a target and a
level with an equals sign between them. Brackets after the target name a span or, in braces, a field
that an event must have; a directive that names a span or the value of a field says nothing about
events outside of spans. An event passes if it is severe enough for the most specific of the
directives that apply to it: the one with the longest target, and of those with the same target the
one that names a field.

What is assumed of `EnvFilter` of tracing-subscriber, which is not part of this library, is that it
reads filters and chooses directives by these rules. What is proved about telemetry asks no more of
a filter than whether it is valid. -/

namespace EditorSession.Log

/-- Why a filter is refused. -/
inductive FilterError where
  | malformedDirective
  | unknownLevel
  /-- The pattern for the value of a field has a defect. -/
  | invalidField (defect : Pattern.Defect)
deriving DecidableEq, Repr

/-- The text of a refusal. -/
def FilterError.message : FilterError → String
  | malformedDirective => "invalid filter directive"
  | unknownLevel =>
    "error parsing level filter: expected one of \"off\", \"error\", \"warn\", \"info\", "
      ++ "\"debug\", \"trace\", or a number 0-5"
  | invalidField defect => "invalid field filter: " ++ defect.message

/-! ### Thresholds -/

/-- The least severe level that passes, if any does. -/
abbrev Threshold := Option Level

namespace Threshold

/-- The event is severe enough. -/
def admits (threshold : Threshold) (level : Level) : Bool :=
  threshold.any fun least => level.rank ≤ least.rank

/-- The thresholds from none to all. -/
def all : List Threshold := none :: Level.all.map some

/-- The name of a threshold in lower case. -/
def name : Threshold → List Char
  | none => ['o', 'f', 'f']
  | some level => Text.lower level.name.toList

/-- Reads a threshold: a rank, or a name in which the case of ASCII letters does not matter. -/
def parse? (cs : List Char) : Option Threshold :=
  match Numeral.count? cs with
  | some n => all[n]?
  | none => all.find? fun t => name t = Text.lower cs

end Threshold

/-! ### Directives -/

/-- What one piece of a filter says. -/
inductive Directive where
  /-- Events pass that are severe enough, whose target begins with the given one, and that have the
  field. -/
  | events (target : Option (List Char)) (field : Option (List Char)) (threshold : Threshold)
  /-- Something about spans. -/
  | spans
deriving DecidableEq, Repr

namespace Directive

/-- The part of a directive that a character belongs to, and where that part starts. -/
inductive Place where
  | start
  | name (first : Nat)
  | span (first : Nat)
  | field (first : Nat)
  | afterFields
  | afterSpan
  | level (first : Nat)
deriving DecidableEq, Repr

/-- A directive as far as it has been read. -/
structure Draft where
  place : Place := .start
  target : Option (List Char) := none
  /-- A span is named. -/
  spanned : Bool := false
  field : Option FieldCondition := none
deriving DecidableEq, Repr

/-- A directive may begin with this character, brackets apart. -/
def mayBegin (c : Char) : Bool := c = '-' || c = ':' || c = '_' || Text.isAlphanumeric c

/-- Reads a character at a position. -/
def advance (piece : List Char) (position : Nat) (c : Char) (d : Draft) :
    Except FilterError Draft :=
  match d.place with
  | .start =>
    if c = '[' then .ok { d with place := .span (position + 1) }
    else if mayBegin c then .ok { d with place := .name position }
    else .error .malformedDirective
  | .name first =>
    let target := some (Text.slice piece first position)
    if c = '=' then .ok { d with place := .level (position + 1), target }
    else if c = '[' then .ok { d with place := .span (position + 1), target }
    else .ok d
  | .span first =>
    if c = ']' then .ok { d with place := .afterSpan, spanned := true }
    else if c = '\x7b' then
      .ok { d with place := .field (position + 1), spanned := first ≠ position }
    else .ok d
  | .field first =>
    if c ≠ '\x7d' then .ok d
    else if first = position then .error .malformedDirective
    else match FieldCondition.parse (Text.slice piece first position) with
      | .ok field => .ok { d with place := .afterFields, field := some field }
      | .error defect => .error (.invalidField defect)
  | .afterFields =>
    if c = ']' then .ok { d with place := .afterSpan } else .error .malformedDirective
  | .afterSpan =>
    if c = '=' then .ok { d with place := .level (position + 1) } else .error .malformedDirective
  | .level _ => .ok d

/-- Reads the characters from a position on. -/
def scan (piece : List Char) : Nat → List Char → Draft → Except FilterError Draft
  | _, [], d => .ok d
  | position, c :: cs, d => do scan piece (position + c.utf8Size) cs (← advance piece position c d)

/-- The directive with that threshold. -/
def Draft.toDirective (d : Draft) (threshold : Threshold) : Directive :=
  if d.spanned || d.field.any (·.valued) then spans
  else events d.target (d.field.map (·.name)) threshold

/-- Reads a directive. The piece is scanned without the blanks around it, and its parts are cut out
of the whole piece at the positions so found. -/
def parse (piece : List Char) : Except FilterError Directive := do
  let d ← scan piece 0 (Text.trim piece) {}
  match d.place with
  | .name first =>
    let text := Text.dropBytes first piece
    match Threshold.parse? text with
    | some threshold => return events none none threshold
    | none => return events (some text) none (some .trace)
  | .level first =>
    match Text.dropBytes first piece with
    | [] => return d.toDirective (some .trace)
    | text =>
      match Threshold.parse? text with
      | some threshold => return d.toDirective threshold
      | none => .error .unknownLevel
  | .afterSpan => return d.toDirective (some .trace)
  | .start | .span _ | .field _ | .afterFields => .error .malformedDirective

end Directive

/-! ### Filters -/

/-- How closely a directive describes an event: by the length of its target, and then by the field
that it names. Of two fields the later one in the order of texts counts as closer. -/
structure Specificity where
  target : Nat
  field : List Char
deriving DecidableEq, Repr

/-- The second directive describes the event as closely as the first. -/
def Specificity.atMost (a b : Specificity) : Bool :=
  a.target < b.target ||
    (a.target = b.target && !List.lex b.field a.field fun c d => c.toNat < d.toNat)

/-- The directives of a filter, in their order. -/
structure Filter where
  directives : List Directive
deriving DecidableEq, Repr

namespace Filter

/-- The pieces between the commas that are not empty. -/
def pieces (text : List Char) : List (List Char) :=
  (Text.pieces ',' text).filter fun piece => !piece.isEmpty

/-- Reads a filter. -/
def parse (text : String) : Except FilterError Filter :=
  ((pieces text.toList).mapM Directive.parse).map Filter.mk

/-- The threshold of a directive that applies to the event, and how closely it describes it. -/
def applies (e : Event) : Directive → Option (Specificity × Threshold)
  | .events target field threshold =>
    if target.all (·.isPrefixOf e.target.toList)
        && field.all fun name => e.values.any fun (shown, _) => shown.toList = name then
      some (⟨(target.map fun name => name.length + 1).getD 0, field.getD []⟩, threshold)
    else none
  | .spans => none

/-- Of two directives the closer one, of two equally close ones the later. -/
def better (best : Option (Specificity × Threshold)) (next : Specificity × Threshold) :
    Option (Specificity × Threshold) :=
  match best with
  | none => some next
  | some best => if best.1.atMost next.1 then some next else some best

/-- The threshold for the event. -/
def threshold (f : Filter) (e : Event) : Threshold :=
  ((f.directives.filterMap (applies e)).foldl better none).bind Prod.snd

/-- The event passes. -/
def admits (f : Filter) (e : Event) : Bool := (f.threshold e).admits e.level

end Filter

end EditorSession.Log
