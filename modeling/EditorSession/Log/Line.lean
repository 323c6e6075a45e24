import EditorSession.Config.Basic
import EditorSession.Log.Event
import EditorSession.Text.Quoted

/-! # Log lines

An event is written as a JSON object or in a compact form. A JSON line holds the time, the level,
the values of the event and the target, and may hold a name twice. A compact line holds the time,
the level in five columns, the target and the values, a message as its bare text and others by name.

These are the lines of the JSON and the compact formatter of tracing-subscriber, without spans and
colours; that it writes them so is assumed here. -/

namespace EditorSession.Log

/-! ### JSON lines -/

/-- The value as JSON. -/
def Value.toJson : Value → Json
  | quoted text => .string text
  | bare text => .string text
  | integer n => .int n
  | flag b => .boolean b

/-- The event as one JSON object. -/
def Event.jsonLine (e : Event) (time : String) : String :=
  (Json.object (
    [("timestamp", .string time), ("level", .string e.level.name)]
      ++ e.values.map (fun (name, value) => (name, value.toJson))
      ++ [("target", .string e.target)])).render

/-! ### Compact lines -/

/-- Messages come from outside, so the controls that could steer a terminal are shown by number. -/
def harmless (c : Char) : List Char :=
  if c = '\x1b' then ['\\', 'x', '1', 'b']
  else if c = '\x07' then ['\\', 'x', '0', '7']
  else if c = '\x08' then ['\\', 'x', '0', '8']
  else if c = '\x0c' then ['\\', 'x', '0', 'c']
  else if c = '\x7f' then ['\\', 'x', '7', 'f']
  else if 0x80 ≤ c.toNat ∧ c.toNat ≤ 0x9f then Text.byNumber c
  else [c]

/-- The value behind an equals sign. -/
def Value.compact : Value → String
  | quoted text => Text.quoted text
  | bare text => text
  | integer n => toString n
  | flag b => toString b

/-- A message as its text, and any other value with its name. -/
def compactValue (name : String) (value : Value) : String :=
  if name = messageField then
    match value with
    | .quoted text | .bare text => String.ofList (text.toList.flatMap harmless)
    | other => other.compact
  else name ++ "=" ++ value.compact

/-- The name of the level behind enough spaces for five columns. -/
def levelColumn (level : Level) : String :=
  String.ofList (List.replicate (5 - level.name.length) ' ') ++ level.name

/-- The event on one line for reading. -/
def Event.compactLine (e : Event) (time : String) : String :=
  time ++ " " ++ levelColumn e.level ++ " " ++ e.target ++ ": "
    ++ " ".intercalate (e.values.map fun (name, value) => compactValue name value)

/-! ### Both formats -/

/-- The line of an event in a format. -/
def Event.line (e : Event) (format : LogFormat) (time : String) : String :=
  match format with
  | .json => e.jsonLine time
  | .compact => e.compactLine time

end EditorSession.Log
