import EditorSession.Json.Decoder
import EditorSession.Json.Printer
import EditorSession.Text.Caseless

/-! # The configuration

A `Config` says which log lines are written and how, which section of the client's configuration
belongs to the server, and whether formatting while typing starts switched on. Each field has a
built-in default, which fills it where a written configuration leaves it out. -/

namespace EditorSession

open Json (Decoder Record Field DecodeError decodeText decodeValue)

/-- How log lines are written. -/
inductive LogFormat where
  | json
  | compact
deriving DecidableEq, Repr

namespace LogFormat

/-- The name of a format. -/
def name : LogFormat → String
  | json => "json"
  | compact => "compact"

/-- The formats by their names. -/
def known : List (String × LogFormat) := [(json.name, json), (compact.name, compact)]

/-- The format of that name, in which the case of ASCII letters does not matter. -/
def ofName? (s : String) : Option LogFormat :=
  (known.find? fun entry => Text.lower s.toList = entry.1.toList).map Prod.snd

/-- The text of the failure to recognise a name. -/
def unknownName : String := "Matching variant not found"

/-- Reads a format, whose name has to be written exactly. -/
def decoder : Decoder LogFormat := .variant known

end LogFormat

/-- The configuration of a server. -/
structure Config where
  logFilter : String
  logFormat : LogFormat
  configurationSection : String
  formatOnType : Bool
deriving DecidableEq, Repr

namespace Config

/-! ### Defaults -/

/-- The built-in log filter. -/
def defaultLogFilter : String := "info"

/-- The built-in log format. -/
def defaultLogFormat : LogFormat := .json

/-- The built-in section of the client's configuration. -/
def defaultConfigurationSection : String := "puppet"

/-- Formatting while typing starts switched off. -/
def defaultFormatOnType : Bool := false

/-- The configuration in which every field has its default. -/
def default : Config :=
  ⟨defaultLogFilter, defaultLogFormat, defaultConfigurationSection, defaultFormatOnType⟩

instance : Inhabited Config := ⟨default⟩

/-! ### JSON -/

/-- The key of the log filter. -/
def logFilterKey : String := "log_filter"

/-- The key of the log format. -/
def logFormatKey : String := "log_format"

/-- The key of the section of the client's configuration. -/
def sectionKey : String := "configuration_section"

/-- The key of the switch for formatting while typing. -/
def formatOnTypeKey : String := "format_on_type"

/-- The configuration as an object, in the order of the fields. -/
def toJson (c : Config) : Json :=
  .object [
    (logFilterKey, .string c.logFilter),
    (logFormatKey, .string c.logFormat.name),
    (sectionKey, .string c.configurationSection),
    (formatOnTypeKey, .boolean c.formatOnType)]

/-- The text of the configuration. -/
def text (c : Config) : String := c.toJson.render

/-- The fields of a configuration, each of which may be left out. -/
def shape : Record where
  name := "Config"
  fields := [
    .of logFilterKey .string true true,
    .of logFormatKey LogFormat.decoder true true,
    .of sectionKey .string true true,
    .of formatOnTypeKey .boolean true true]

/-- Reads a configuration and fills what is left out. -/
def decoder : Decoder Config := fun source outline => do
  let found ← shape.select source outline
  let logFilter ← found.field? logFilterKey .string
  let logFormat ← found.field? logFormatKey LogFormat.decoder
  let configurationSection ← found.field? sectionKey .string
  let formatOnType ← found.field? formatOnTypeKey .boolean
  return {
    logFilter := logFilter.getD defaultLogFilter
    logFormat := logFormat.getD defaultLogFormat
    configurationSection := configurationSection.getD defaultConfigurationSection
    formatOnType := formatOnType.getD defaultFormatOnType }

/-- Reads a configuration from a text. -/
def ofText (text : String) : Except DecodeError Config := decodeText decoder text

/-- Reads a configuration from a value. -/
def ofValue (value : Json) : Except DecodeError Config := decodeValue decoder value

end Config

end EditorSession
