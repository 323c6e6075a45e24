import EditorSession.Config.Candidate
import EditorSession.Config.CommandLine
import EditorSession.Config.File
import EditorSession.Config.Overlay

/-! # Loading a configuration

The layers of a configuration are those of a file, of the environment and of the command line, in
this order. A source that fails adds no layers, and loading goes on with the others so that all
failures are reported together.

This is how the code that ortho_config generates loads a configuration, as far as observed; it is
not part of this library. What is proved of loading is proved of every `Loader` that keeps
`Loader.Laws`, of which `Config.loader` is the one that runs. -/

namespace EditorSession

/-- Why a configuration is not loaded. -/
inductive LoadError where
  | commandLine (error : CommandLineError)
  | file (error : FileError)
  | merge (error : MergeError)
deriving DecidableEq, Repr

namespace Config

/-! ### The file -/

/-- What the candidates give: the layers of the file that is used, the failures of files that had to
be there, and the failures of others. -/
structure FileSearch where
  layers : List Layer
  required : List FileError
  optional : List FileError

/-- The failures that are reported: those of optional files only if no file is used. A file that is
used has a layer of its own. -/
def FileSearch.errors (s : FileSearch) : List FileError :=
  if s.layers.isEmpty then s.required ++ s.optional else s.required

/-- Tries the candidates until the first that loads. An optional one that is missing is passed over.
-/
def search (tree : FileTree) : List Candidate → FileSearch
  | [] => ⟨[], [], []⟩
  | c :: rest =>
    if !c.required && tree.isMissing c.path then search tree rest
    else match tree.layers c.path with
      | .ok layers => ⟨layers, [], []⟩
      | .error e =>
        let s := search tree rest
        if c.required then { s with required := e :: s.required }
        else { s with optional := e :: s.optional }

/-! ### All sources -/

/-- What the sources say: the layers in their order, and the failures in theirs. -/
structure Sources where
  layers : List Layer
  errors : List LoadError

/-- Asks all sources. A command line that fails names no file. -/
def sources (arguments : List String) (env : Environment) (tree : FileTree) : Sources :=
  let commandLine := CommandLine.parse arguments
  let path? := commandLine.toOption.bind CommandLine.configPath
  let found := search tree (Candidate.all path? env tree.working.text)
  { layers := found.layers ++ [env.layer] ++ (commandLine.toOption.map CommandLine.layer).toList
    errors := (match commandLine with
        | .ok _ => []
        | .error e => [.commandLine e])
      ++ found.errors.map .file }

/-- Loads a configuration. The layers are merged even if a source has failed. -/
def load (arguments : List String) (env : Environment) (tree : FileTree) :
    Except (List LoadError) Config :=
  let found := sources arguments env tree
  match found.errors, ofLayers found.layers with
  | [], .ok config => .ok config
  | errors, .ok _ => .error errors
  | errors, .error e => .error (errors ++ [.merge e])

/-! ### As a loader -/

/-- The document at that place, if a file is there and can be read. -/
def document? (tree : FileTree) (place : Location) : Option Document :=
  (tree.content? place).bind fun content => (FileTree.document place content).toOption

/-- The place of the first candidate that loads. -/
def selected? (tree : FileTree) (candidates : List Candidate) : Option Location :=
  candidates.findSome? fun c =>
    if (tree.layers c.path).toOption.isSome then (tree.filePlace c.path).toOption else none

/-- The paths at which the file of a configuration may be. -/
def candidates (line : CommandLine) (env : Environment) (tree : FileTree) : List Candidate :=
  Candidate.all line.configPath env tree.working.text

/-- The loader that runs. -/
def loader : Loader FileTree where
  Failure := List LoadError
  MergeFailure := MergeError
  Place := Location
  merger := merger
  line? arguments := (CommandLine.parse arguments).toOption
  lineLayer := CommandLine.layer
  key? := Environment.key?
  decode := Environment.decode
  environmentLayer := Environment.layer
  selected? line env tree := selected? tree (candidates line env tree)
  document? := document?
  base? tree place document := (tree.base? place document).toOption.join
  fileLayer file := FileTree.layer file.1 file.2
  load := load

end Config

end EditorSession
