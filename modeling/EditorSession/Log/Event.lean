/-! # Log events

An event has a level, a target that says which part of the program speaks, a message, and named
values in the order in which they are shown. -/

namespace EditorSession.Log

/-- How severe an event is. -/
inductive Level where
  | error
  | warn
  | info
  | debug
  | trace
deriving DecidableEq, Repr

namespace Level

/-- The name of a level. -/
def name : Level → String
  | error => "ERROR"
  | warn => "WARN"
  | info => "INFO"
  | debug => "DEBUG"
  | trace => "TRACE"

/-- The rank of a level, one for the most severe. -/
def rank : Level → Nat
  | error => 1
  | warn => 2
  | info => 3
  | debug => 4
  | trace => 5

/-- The levels in the order of their ranks. -/
def all : List Level := [error, warn, info, debug, trace]

/-- The level of that name. -/
def ofName? (s : String) : Option Level := all.find? fun level => level.name = s

end Level

/-- A named value of an event. -/
inductive Value where
  /-- A text that a compact line shows between quotes. -/
  | quoted (text : String)
  /-- A text that a compact line shows as it is. -/
  | bare (text : String)
  | integer (value : Int)
  | flag (value : Bool)
deriving DecidableEq, Repr

/-- Something that happened. -/
structure Event where
  level : Level
  target : String
  message : String
  fields : List (String × Value)
deriving DecidableEq, Repr

/-- The name under which the message of an event is shown. -/
def messageField : String := "message"

/-- What an event shows: the message first, then the named values. -/
def Event.values (e : Event) : List (String × Value) := (messageField, .bare e.message) :: e.fields

end EditorSession.Log
