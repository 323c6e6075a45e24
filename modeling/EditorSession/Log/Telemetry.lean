import EditorSession.Log.Filter
import EditorSession.Log.Line

/-! # Log output of a process

A process installs one log output, and the first one that is installed stays. `Telemetry.initialise`
installs the output that a configuration describes; once it succeeded, later calls report the format
that is in use and ask for nothing else.

Three things are assumed of libraries that are not part of this one. A `OnceCell` of once_cell that
is asked for its content or else to make it runs what it is given while it is empty, keeps the first
result that is no failure and stays empty after a failure. The global dispatcher of tracing is set
at most once in a process, and an attempt to set it again fails. `EnvFilter` of tracing-subscriber
accepts a text exactly if `Filter.parse` does. -/

namespace EditorSession.Log

/-- Why no log output was installed. -/
inductive TelemetryError where
  | filter (text : String) (cause : FilterError)
  /-- Another part of the process was first. -/
  | alreadyInstalled
deriving DecidableEq, Repr

/-- The text of a failure. -/
def TelemetryError.message : TelemetryError → String
  | filter text cause => "invalid log filter '" ++ text ++ "': " ++ cause.message
  | alreadyInstalled =>
    "another tracing subscriber is already installed: "
      ++ "a global default trace dispatcher has already been set"

/-- A log output: what passes and how it is written. -/
structure Output where
  filter : Filter
  format : LogFormat
deriving DecidableEq, Repr

namespace Output

/-- The output that a configuration describes. -/
def ofConfig (config : Config) : Except TelemetryError Output :=
  match Filter.parse config.logFilter with
  | .ok filter => .ok ⟨filter, config.logFormat⟩
  | .error cause => .error (.filter config.logFilter cause)

/-- The event passes. -/
def admits (o : Output) (e : Event) : Bool := o.filter.admits e

/-- The lines of the events that pass. -/
def lines (o : Output) (events : List Event) (time : String) : List String :=
  (events.filter o.admits).map fun e => e.line o.format time

end Output

/-- What a process has installed. -/
inductive Telemetry where
  | vacant
  /-- An output of another part of the process. -/
  | foreign
  /-- The output of the first call that succeeded. -/
  | installed (output : Output)
deriving DecidableEq, Repr

/-- Installs the output of a configuration and returns the format in use. -/
def Telemetry.initialise (t : Telemetry) (config : Config) :
    Except TelemetryError LogFormat × Telemetry :=
  match t with
  | installed output => (.ok output.format, installed output)
  | vacant =>
    match Output.ofConfig config with
    | .ok output => (.ok output.format, installed output)
    | .error e => (.error e, vacant)
  | foreign =>
    match Output.ofConfig config with
    | .ok _ => (.error .alreadyInstalled, foreign)
    | .error e => (.error e, foreign)

/-- The results of successive calls. -/
def Telemetry.initialiseAll (t : Telemetry) : List Config → List (Except TelemetryError LogFormat)
  | [] => []
  | config :: rest =>
    let (result, t) := t.initialise config
    result :: t.initialiseAll rest

end EditorSession.Log
