import EditorSession.Config.Merger

/-! # Loaders

A configuration is loaded by code that ortho_config generates, which is not part of this library: it
reads the command line through clap, the environment through a provider of its own and the selected
file as TOML, and merges the layers of the file, of the environment and of the command line in this
order. A `Loader` is such code. `Loader.Laws` says what is relied on: each layer holds what its
source gives for the options that take a value, and a configuration that is loaded is what these
layers make. How texts are read, which file is selected and what else a layer holds is left open,
and so is what the layer of a command line says of a flag that is absent. `Config.loader` is the one
that runs. -/

namespace EditorSession

/-! ### Sources -/

/-- What a command line says. -/
structure CommandLine where
  logFilter : Option String
  logFormat : Option LogFormat
  configurationSection : Option String
  formatOnType : Bool
  configPath : Option String
deriving DecidableEq, Repr

/-- The variables with their values, in ascending order of their names. -/
structure Environment where
  entries : List (String × String)
deriving DecidableEq, Repr

/-- The members of a file. -/
abbrev Document := List (String × Json)

/-- The variables of the options that take a value, by the keys of the options. -/
def Environment.variables : List (String × String) := [
  (Config.logFilterKey, "PUPPET_LSP_LOG_FILTER"), (Config.logFormatKey, "PUPPET_LSP_LOG_FORMAT"),
  (Config.sectionKey, "PUPPET_LSP_CONFIGURATION_SECTION")]

/-- The keys of the options that take a value. -/
def Config.valuedKeys : List String := Environment.variables.map Prod.fst

/-- The value of the option of a key, if it is given. -/
def CommandLine.given? (c : CommandLine) (key : String) : Option Json :=
  if key = Config.logFilterKey then c.logFilter.map .string
  else if key = Config.logFormatKey then (c.logFormat.map LogFormat.name).map .string
  else if key = Config.sectionKey then c.configurationSection.map .string
  else none

/-- The layer is an object that holds what is given for the options that take a value. -/
def Layer.Holds (l : Layer) (given : String → Option Json) : Prop :=
  ∃ members, l.value = .object members ∧ (members.map Prod.fst).Nodup ∧
    ∀ key ∈ Config.valuedKeys, Json.find key members = given key

/-! ### Loaders -/

/-- A way to load a configuration, given the files that there are. -/
structure Loader (Files : Type) where
  /-- Why no configuration is loaded. -/
  Failure : Type
  /-- Why layers are not merged. -/
  MergeFailure : Type
  /-- Where a file is. -/
  Place : Type
  /-- Merges the layers. -/
  merger : Merger MergeFailure
  /-- What the arguments say, if they can be read. -/
  line? : List String → Option CommandLine
  /-- The layer of a command line. -/
  lineLayer : CommandLine → Layer
  /-- The key that the name of a variable denotes, if it belongs to the configuration. -/
  key? : String → Option String
  /-- The value that a variable, given with its name, has for its key. -/
  decode : String × String → Json
  /-- The layer of the environment. -/
  environmentLayer : Environment → Layer
  /-- Where the file that is used is. -/
  selected? : CommandLine → Environment → Files → Option Place
  /-- The document of a file. -/
  document? : Files → Place → Option Document
  /-- Where the file is that a document extends, if it extends one. -/
  base? : Files → Place → Document → Option Place
  /-- The layer of a file. -/
  fileLayer : Place × Document → Layer
  /-- Loads a configuration. -/
  load : List String → Environment → Files → Except Failure Config

namespace Loader

variable {Files : Type} (L : Loader Files)

/-- The keys that the variables denote. -/
def keys (env : Environment) : List String := env.entries.filterMap fun entry => L.key? entry.1

/-- The value that the environment gives for a key. -/
def given? (env : Environment) (key : String) : Option Json :=
  (env.entries.find? fun entry => L.key? entry.1 = some key).map L.decode

/-- A file and the files that it extends one after the other, with their documents. -/
inductive Chain (files : Files) : L.Place → List (L.Place × Document) → Prop
  | last {place : L.Place} {document : Document} (hread : L.document? files place = some document)
      (hbase : L.base? files place document = none) : Chain files place [(place, document)]
  | extending {place base : L.Place} {document : Document} {below : List (L.Place × Document)}
      (hread : L.document? files place = some document)
      (hbase : L.base? files place document = some base) (hbelow : Chain files base below) :
      Chain files place ((place, document) :: below)

/-- The files that are used: the chain of the one that is selected, if one is. -/
inductive Uses (files : Files) : Option L.Place → List (L.Place × Document) → Prop
  | nothing : Uses files none []
  | selected {place : L.Place} {chain : List (L.Place × Document)}
      (hchain : L.Chain files place chain) : Uses files (some place) chain

/-- The layers of all sources, the lowest first. -/
def layers (line : CommandLine) (env : Environment) (chain : List (L.Place × Document)) :
    List Layer :=
  (chain.map L.fileLayer).reverse ++ [L.environmentLayer env, L.lineLayer line]

/-- What is relied on when a configuration is loaded. -/
structure Laws : Prop where
  merger : L.merger.Laws
  /-- The variable of an option denotes its key. -/
  key?_variable : ∀ entry ∈ Environment.variables, L.key? entry.2 = some entry.1
  /-- An object in a variable or in a document names each of its members once. -/
  decode_neat : ∀ entry, (L.decode entry).Neat
  document_neat : ∀ files place document, L.document? files place = some document →
    ∀ m ∈ document, m.2.Neat
  lineLayer_holds : ∀ line, (L.lineLayer line).Holds line.given?
  /-- If no two variables denote the same key, the layer holds the value of each. -/
  environmentLayer_holds : ∀ env, (L.keys env).Nodup →
    (L.environmentLayer env).Holds (L.given? env)
  fileLayer_holds : ∀ files place document, L.document? files place = some document →
    (L.fileLayer (place, document)).Holds fun key => Json.find key document
  /-- A configuration that is loaded is what the layers of all sources make. -/
  load_ok : ∀ arguments env files config, L.load arguments env files = .ok config →
    ∃ line chain, L.line? arguments = some line ∧ L.Uses files (L.selected? line env files) chain ∧
      L.merger.merge (L.layers line env chain) = .ok config

end Loader

end EditorSession
