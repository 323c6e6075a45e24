import EditorSession.Json.Lookup
import EditorSession.Message.Method

/-! # Client capabilities

The client declares its capabilities as a tree of values. A method may be registered while the
session runs if the tree says so under the method's segments. -/

namespace EditorSession

/-- The capabilities that the client declared. -/
structure Capabilities where
  tree : Json
deriving DecidableEq, Repr

namespace Capabilities

/-- Nothing declared. -/
def none : Capabilities := ⟨.null⟩

instance : Inhabited Capabilities := ⟨none⟩

/-- The value at the end of a path. -/
def capability (c : Capabilities) (path : List String) : Option Json := c.tree.lookup path

/-- The path ends at the boolean true. -/
def isEnabled (c : Capabilities) (path : List String) : Bool := c.tree.lookupBool path = some true

/-- The key under which a client declares that a method may be registered. -/
def dynamicRegistrationKey : String := "dynamicRegistration"

/-- The path at which the client declares that the method may be registered. -/
def registrationPath (method : String) : List String :=
  Method.segments method ++ [dynamicRegistrationKey]

/-- The method may be registered while the session runs. -/
def supportsDynamicRegistration (c : Capabilities) (method : String) : Bool :=
  c.isEnabled (registrationPath method)

end Capabilities

end EditorSession
