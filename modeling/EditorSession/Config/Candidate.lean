import EditorSession.Config.Environment
import EditorSession.Files.Path

/-! # Where a configuration file is looked for

The path of the command line comes first, then that of the environment, then the places below the
directories for configuration, the home directory and the working directory. The file of the command
line has to be there.

This is how ortho_config finds a file, as far as observed; it is not part of this library. It
belongs to `Config.loader`. What is proved of loading is proved of every `Loader` and rests on none
of it. -/

namespace EditorSession

/-- A path at which the configuration file may be. -/
structure Candidate where
  path : String
  required : Bool
deriving DecidableEq, Repr

namespace Candidate

/-- The variable that names a configuration file. -/
def pathVariable : String := "PUPPET_LSP_CONFIG_PATH"

/-- The directory for configuration inside of a base. -/
def directoryName : String := "puppet_lsp"

/-- The name of the file in the directory for configuration. -/
def fileName : String := "config.toml"

/-- The name of the file outside of a directory of its own. -/
def dotName : String := ".puppet_lsp.toml"

/-- The base directories of the system when the environment names none. -/
def systemBases : List String := ["/etc/xdg"]

/-- The directories in a list with colons that are not empty. -/
def directories (list : String) : List String :=
  ((Text.pieces ':' list.toList).filter fun piece => !piece.isEmpty).map String.ofList

/-- The base directories of the system. -/
def systemDirectories (env : Environment) : List String :=
  match directories ((env.value? "XDG_CONFIG_DIRS").getD "") with
  | [] => systemBases
  | found => found

/-- The base directories for configuration. -/
def bases (env : Environment) : List String :=
  (env.value? "XDG_CONFIG_HOME").toList
    ++ systemDirectories env
    ++ ((env.value? "HOME").map fun home => Path.join home ".config").toList

/-- The paths below a base directory. -/
def below (base : String) : List String :=
  [Path.join (Path.join base directoryName) fileName, Path.join base dotName]

/-- The paths at which a file may be that nobody named, given the working directory. -/
def usual (env : Environment) (working : String) : List String :=
  (bases env).flatMap below
    ++ ((env.value? "HOME").map fun home => Path.join home dotName).toList
    ++ [Path.join working dotName]

/-- The path that the environment names. -/
def named (env : Environment) : List String :=
  ((env.value? pathVariable).filter fun path => !path.isEmpty).toList

/-- The candidates without those whose path came before. -/
def distinct (seen : List String) : List Candidate → List Candidate
  | [] => []
  | c :: rest =>
    if c.path ∈ seen then distinct seen rest else c :: distinct (c.path :: seen) rest

/-- All candidates in their order, given the path of the command line and the working directory. -/
def all (path? : Option String) (env : Environment) (working : String) : List Candidate :=
  distinct [] (path?.toList.map (⟨·, true⟩) ++ (named env ++ usual env working).map (⟨·, false⟩))

end Candidate

end EditorSession
