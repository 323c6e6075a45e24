import EditorSession.Config.Loader
import EditorSession.Config.Shorthand

/-! # Reading the environment

A variable belongs to the configuration if its name starts with `PUPPET_LSP_`, in any case and after
any blanks. The rest of the name is the key, and two underscores or a point in it lead into an
object. The layer of an environment holds the values of all such variables, of which the last one of
a key counts.

This is how the environment provider of ortho_config reads the variables, as far as observed; it is
not part of this library. It belongs to `Config.loader`. What is proved of loading is proved of
every `Loader` and rests on none of it. -/

namespace EditorSession

namespace Environment

/-- The value of the variable with exactly that name. -/
def value? (env : Environment) (name : String) : Option String := env.entries.lookup name

/-! ### Keys -/

/-- The start of the names that belong to the configuration, in lower case. -/
def mark : List Char := "puppet_lsp_".toList

/-- Each two underscores as one point. -/
def pointed : List Char → List Char
  | '_' :: '_' :: cs => '.' :: pointed cs
  | c :: cs => c :: pointed cs
  | [] => []

/-- The keys that lead to the value of a variable: none if the variable does not belong to the
configuration, or if one of its keys is empty. -/
def keys? (name : String) : Option (List String) := do
  let rest ← Text.afterWord? mark (Text.trim name.toList)
  let keys := Text.pieces '.' (pointed (Text.trim rest))
  if keys.any List.isEmpty then none
  else some (keys.map fun key => String.ofList (Text.lower key))

/-- The key under which the value of a variable stands in the layer. -/
def key? (name : String) : Option String := (keys? name).bind List.head?

/-! ### The layer -/

/-- The value in objects, one for each key. -/
def nest (keys : List String) (value : Json) : Json :=
  keys.foldr (fun key inner => .object [(key, inner)]) value

/-- The value of a variable, inside the objects into which its name leads. -/
def decode (entry : String × String) : Json :=
  nest ((keys? entry.1).getD []).tail (Shorthand.read entry.2)

/-- Adds a variable to the members gathered so far. -/
def addVariable (members : List (String × Json)) (entry : String × String) :
    List (String × Json) :=
  match key? entry.1 with
  | some key => Json.insert key (decode entry) members
  | none => members

/-- The layer of an environment. -/
def layer (env : Environment) : Layer where
  origin := .environment
  value := .object (env.entries.foldl addVariable [])

end Environment

end EditorSession
