import EditorSession.Decimal.Shortest
import EditorSession.Json.Outline
import EditorSession.Text.Quoted

/-! # Why a value does not decode

A `DecodeError` is a defect of the text or a `Fault`: a value that is well formed and not what the
decoder asks for. `Fault.message` is the text of a fault.

The kinds of fault and their texts are those of serde and serde_json. -/

namespace EditorSession.Json

/-- What a decoder met. -/
inductive Found where
  | boolean (value : Bool)
  | integer (value : Int)
  | floating (value : Double)
  | string (value : String)
  | null
  | sequence
  | map
deriving DecidableEq, Repr

/-- What a decoder asked for. -/
inductive Wanted where
  /-- An integer of 64 bits with a sign. -/
  | int64
  | string
  | boolean
  | sequence
  /-- The null that stands for no content. -/
  | unit
  /-- The name of a variant, alone or as the only member of an object. -/
  | variant
  /-- An object of one member. -/
  | singleMember
  /-- A record by its name. -/
  | record (name : String)
  /-- The sequence of a record's fields. -/
  | fields (name : String) (count : Nat)
  /-- A sequence that ends with the last field. -/
  | fewerItems
deriving DecidableEq, Repr

/-- A well-formed value that is not what the decoder asks for. -/
inductive Fault where
  | missingField (name : String)
  | duplicateField (name : String)
  | unknownVariant (name : String) (known : List String)
  | invalidType (found : Found) (wanted : Wanted)
  | invalidValue (found : Found) (wanted : Wanted)
  | invalidLength (length : Nat) (wanted : Wanted)
  /-- A text that does not read as what it stands for, and why. -/
  | unreadable (reason : String)
deriving DecidableEq, Repr

/-- Why a text or a value does not decode. -/
inductive DecodeError where
  | form (defect : Defect)
  | data (fault : Fault)
deriving DecidableEq, Repr

/-! ### Texts -/

/-- The description of what was met. -/
def Found.describe : Found → String
  | boolean true => "boolean `true`"
  | boolean false => "boolean `false`"
  | integer n => "integer `" ++ toString n ++ "`"
  | floating d => "floating point `" ++ String.ofList d.text ++ "`"
  | string s => "string " ++ Text.quoted s
  | null => "null"
  | sequence => "sequence"
  | map => "map"

/-- The description of what was asked for. -/
def Wanted.describe : Wanted → String
  | int64 => "i64"
  | string => "a string"
  | boolean => "a boolean"
  | sequence => "a sequence"
  | unit => "unit"
  | variant => "string or map"
  | singleMember => "map with a single key"
  | record name => "struct " ++ name
  | fields name 1 => "struct " ++ name ++ " with 1 element"
  | fields name count => "struct " ++ name ++ " with " ++ toString count ++ " elements"
  | fewerItems => "fewer elements in array"

/-- A name in backticks. -/
def ticked (name : String) : String := "`" ++ name ++ "`"

/-- The text of a fault. -/
def Fault.message : Fault → String
  | missingField name => "missing field " ++ ticked name
  | duplicateField name => "duplicate field " ++ ticked name
  | unknownVariant name known =>
    "unknown variant " ++ ticked name ++ ", expected " ++ " or ".intercalate (known.map ticked)
  | invalidType found wanted =>
    "invalid type: " ++ found.describe ++ ", expected " ++ wanted.describe
  | invalidValue found wanted =>
    "invalid value: " ++ found.describe ++ ", expected " ++ wanted.describe
  | invalidLength length wanted =>
    "invalid length " ++ toString length ++ ", expected " ++ wanted.describe
  | unreadable reason => reason

end EditorSession.Json
