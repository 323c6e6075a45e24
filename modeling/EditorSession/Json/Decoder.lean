import EditorSession.Json.Fault
import EditorSession.Json.Reader

/-! # Decoding

A decoder reads an outline as a value of another type. Outlines come from a text or from a value
that was read before, and the two differ in a few rules, so a decoder is told the `Source`.

A record may be written as an object or as the sequence of its fields. `Record.select` checks the
fields in the order in which they are met and returns the outline of each field that is there; a
decoder of a record reads its fields from that selection.

Decoders stand for the code that serde derives for a type, run by serde_json. What is assumed of the
two is written down in this module: members that are no field are passed over, a field that comes
twice is refused, a field that is missing is refused unless it has a default or may be absent,
variants are told by their exact names, a text may open 127 brackets at once, and the first fault in
the order of the text is reported. Which fields there are, which have a default and under which
names they stand is said by the types that are decoded. -/

namespace EditorSession.Json

/-- Where an outline comes from. -/
inductive Source where
  /-- A text, in which so many more brackets may be opened. -/
  | text (room : Nat)
  /-- A value that was read before. -/
  | tree
deriving DecidableEq, Repr

/-- Reads an outline as a value of type `α`. -/
abbrev Decoder (α : Type) := Source → Outline → Except DecodeError α

/-- A defect as the result of decoding. -/
def Defect.raise {α : Type} (defect : Defect) : Except DecodeError α := .error (.form defect)

/-- A fault as the result of decoding. -/
def Fault.raise {α : Type} (fault : Fault) : Except DecodeError α := .error (.data fault)

/-- The result of reading the form of a text, as a result of decoding. -/
def liftForm {α : Type} : Except Defect α → Except DecodeError α
  | .ok a => .ok a
  | .error defect => defect.raise

/-- The source inside one more bracket. -/
def Source.enter : Source → Except DecodeError Source
  | text 0 => Defect.raise .malformed
  | text (room + 1) => .ok (text room)
  | tree => .ok tree

/-! ### Values of the wrong type -/

/-- What a decoder meets that does not want this outline. Brackets are seen without what is inside
them; a literal has to be whole. -/
def Outline.found : Outline → Except DecodeError Found
  | null => .ok .null
  | boolean b => .ok (.boolean b)
  | number (some (.integer n)) => .ok (.integer n)
  | number (some (.double d)) => .ok (.floating d)
  | number none => Defect.raise .malformed
  | string (some s) => .ok (.string s)
  | string none => Defect.raise .malformed
  | array .. => .ok .sequence
  | object .. => .ok .map
  | broken _ defect => Defect.raise defect.read

/-- The outline is not what is wanted. -/
def Outline.mismatch {α : Type} (outline : Outline) (wanted : Wanted) : Except DecodeError α :=
  outline.found.bind fun found => (Fault.invalidType found wanted).raise

namespace Decoder

/-! ### Scalars -/

/-- Any value. -/
def value : Decoder Json
  | .text room, outline => liftForm (outline.value? room)
  | .tree, outline => liftForm (outline.value? outline.depth)

/-- A string. -/
def string : Decoder String
  | _, .string (some s) => .ok s
  | _, outline => outline.mismatch .string

/-- A boolean. -/
def boolean : Decoder Bool
  | _, .boolean b => .ok b
  | _, outline => outline.mismatch .boolean

/-- An integer of 64 bits with a sign. -/
def int64 : Decoder Int
  | _, .number (some (.integer n)) =>
    if -Int.pow 2 63 ≤ n ∧ n < Int.pow 2 63 then .ok n
    else (Fault.invalidValue (.integer n) .int64).raise
  | _, outline => outline.mismatch .int64

/-- The null that stands for no content. -/
def unit : Decoder Unit
  | _, .null => .ok ()
  | _, outline => outline.mismatch .unit

/-- A null, or what the decoder reads. -/
def optional {α : Type} (d : Decoder α) : Decoder (Option α)
  | _, .null => .ok none
  | source, outline => (d source outline).map some

/-! ### Sequences -/

/-- Reads the items one after the other. -/
def items {α : Type} (d : Decoder α) (source : Source) (tail : Tail) :
    List Outline → Except DecodeError (List α)
  | [] => (liftForm (Defect.orElse tail.defect?)).map fun _ => []
  | item :: rest => do
    let first ← d source item
    let others ← items d source tail rest
    return first :: others

/-- A sequence of what the decoder reads. -/
def list {α : Type} (d : Decoder α) : Decoder (List α)
  | source, .array elements tail => do
    let inside ← source.enter
    items d inside tail elements
  | _, outline => outline.mismatch .sequence

/-! ### Variants -/

/-- The variant of that name. -/
def named {α : Type} (known : List (String × α)) (name : String) : Except DecodeError α :=
  match known.lookup name with
  | some a => .ok a
  | none => (Fault.unknownVariant name (known.map Prod.fst)).raise

/-- What a text may hold after the only member that names a variant. -/
def variantEnd (rest : List (Option String × Outline)) (tail : Tail) : Except DecodeError Unit :=
  match rest, tail with
  | [], .closed => .ok ()
  | [], .unclosed defect => defect.raise
  | _, _ => Defect.raise .malformed

/-- A variant without content, written as its name or as an object whose only member is the name
with a null. A text shows neither a literal nor an array where a variant should be. -/
def variant {α : Type} (known : List (String × α)) : Decoder α
  | _, .string (some name) => named known name
  | .text room, .object members tail => do
    let inside ← (Source.text room).enter
    match members with
    | [] => Defect.raise (tail.defect?.getD .malformed)
    | (none, _) :: _ => Defect.raise .malformed
    | (some name, content) :: rest =>
      let a ← named known name
      unit inside content
      variantEnd rest tail
      return a
  | .text _, .broken begun defect =>
    Defect.raise (if begun = .word then .malformed else defect.read)
  | .text _, _ => Defect.raise .malformed
  | .tree, .object [(some name, content)] _ => do
    let a ← named known name
    unit .tree content
    return a
  | .tree, .object .. => (Fault.invalidValue .map .singleMember).raise
  | .tree, outline => outline.mismatch .variant

end Decoder

/-! ### Records -/

/-- A field of a record. -/
structure Field where
  name : String
  /-- Reads the content of the field to see whether it is acceptable. -/
  check : Decoder Unit
  /-- An object may lack the field. -/
  optional : Bool
  /-- A sequence may end before the field. -/
  fillable : Bool

/-- A field with the content that the decoder reads. -/
def Field.of {α : Type} (name : String) (d : Decoder α) (optional fillable : Bool) : Field :=
  ⟨name, fun source outline => (d source outline).map fun _ => (), optional, fillable⟩

/-- The name of a record and its fields in the order of a sequence. -/
structure Record where
  name : String
  fields : List Field

/-- The fields that are there, and the source of what they hold. -/
structure Selection where
  source : Source
  present : List (String × Outline)

namespace Record

/-- Checks the members in their order. A member that is no field is passed over; a field that comes
a second time is a fault before its content is read. -/
def selectMembers (r : Record) (source : Source) (tail : Tail) (present : List (String × Outline)) :
    List (Option String × Outline) → Except DecodeError (List (String × Outline))
  | [] => (liftForm (Defect.orElse tail.defect?)).map fun _ => present
  | (none, _) :: _ => Defect.raise .malformed
  | (some name, content) :: rest =>
    match r.fields.find? fun f => f.name = name with
    | none => do
      liftForm content.skip
      r.selectMembers source tail present rest
    | some field =>
      if (present.lookup name).isSome then (Fault.duplicateField name).raise
      else do
        field.check source content
        r.selectMembers source tail (present ++ [(name, content)]) rest

/-- The first field that an object must have and this one lacks is a fault. -/
def requireFields (present : List (String × Outline)) : List Field → Except DecodeError Unit
  | [] => .ok ()
  | field :: rest =>
    if (present.lookup field.name).isSome || field.optional then requireFields present rest
    else (Fault.missingField field.name).raise

/-- What may follow the last field of a sequence: nothing. -/
def sequenceEnd (source : Source) (length : Nat) (tail : Tail) :
    List Outline → Except DecodeError Unit
  | [] => liftForm (Defect.orElse tail.defect?)
  | _ :: _ =>
    match source with
    | .text _ => Defect.raise .malformed
    | .tree => (Fault.invalidLength length .fewerItems).raise

/-- Checks the items of a sequence against the fields. -/
def selectItems (r : Record) (source : Source) (length : Nat) (tail : Tail) (index : Nat) :
    List Field → List Outline → Except DecodeError (List (String × Outline))
  | [], rest => (sequenceEnd source length tail rest).map fun _ => []
  | field :: fields, item :: items => do
    field.check source item
    let others ← r.selectItems source length tail (index + 1) fields items
    return (field.name, item) :: others
  | field :: fields, [] => do
    liftForm (Defect.orElse tail.defect?)
    if field.fillable then r.selectItems source length tail (index + 1) fields []
    else (Fault.invalidLength index (.fields r.name r.fields.length)).raise

/-- Checks an outline as the record, and returns the outlines of the fields that are there. -/
def select (r : Record) : Decoder Selection
  | source, .object members tail => do
    let inside ← source.enter
    let present ← r.selectMembers inside tail [] members
    requireFields present r.fields
    return ⟨inside, present⟩
  | source, .array items tail => do
    let inside ← source.enter
    let present ← r.selectItems inside items.length tail 0 r.fields items
    return ⟨inside, present⟩
  | _, outline => outline.mismatch (.record r.name)

end Record

/-- The content of a field, if the field is there. -/
def Selection.field? {α : Type} (s : Selection) (name : String) (d : Decoder α) :
    Except DecodeError (Option α) :=
  match s.present.lookup name with
  | none => .ok none
  | some content => (d s.source content).map some

/-- The content of a field that is always there. -/
def Selection.field {α : Type} (s : Selection) (name : String) (d : Decoder α) :
    Except DecodeError α :=
  match s.present.lookup name with
  | none => (Fault.missingField name).raise
  | some content => d s.source content

/-! ### Whole texts and values -/

/-- Decodes a text, in which at most 127 brackets may be open at once and only blanks may follow the
value. -/
def decodeText {α : Type} (d : Decoder α) (text : String) : Except DecodeError α :=
  let (outline, rest) := Outline.ofText text
  match d (.text 127) outline with
  | .error e => .error e
  | .ok a => if Outline.onlyBlanks rest then .ok a else Defect.raise .malformed

/-- Decodes a value that was read before. -/
def decodeValue {α : Type} (d : Decoder α) (value : Json) : Except DecodeError α :=
  d .tree (.ofValue value)

end EditorSession.Json
