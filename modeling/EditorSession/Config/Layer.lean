import EditorSession.Config.Basic

/-! # Layers of configuration

A configuration is put together from layers. A `Layer` holds the values of one origin. -/

namespace EditorSession

/-- Where a layer comes from. -/
inductive Origin where
  | defaults
  /-- A file, whose path may be known. -/
  | file (path : Option String)
  | environment
  | commandLine
deriving DecidableEq, Repr

/-- The name of an origin in messages. -/
def Origin.name : Origin → String
  | defaults => "defaults"
  | file _ => "file"
  | environment => "environment"
  | commandLine => "CLI"

/-- The path of an origin, which only a file has. -/
def Origin.path? : Origin → Option String
  | file path => path
  | _ => none

/-- Values from one origin. -/
structure Layer where
  origin : Origin
  value : Json
deriving DecidableEq, Repr

end EditorSession
