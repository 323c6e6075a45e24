import EditorSession.Text.Pieces

/-! # Paths

A path is a text of names between slashes, read from the root if it starts with a slash and from
some directory otherwise. A `Location` is a place that does not depend on a directory. -/

namespace EditorSession

/-- A place in a tree of files: the names on the way from the root. -/
structure Location where
  names : List String
deriving DecidableEq, Repr

namespace Location

/-- The root of the tree. -/
def root : Location := ⟨[]⟩

/-- The place of that name inside. -/
def child (l : Location) (name : String) : Location := ⟨l.names ++ [name]⟩

/-- The place that holds this one; the root holds itself. -/
def parent (l : Location) : Location := ⟨l.names.dropLast⟩

/-- The other place is this one or lies below it. -/
def covers (l other : Location) : Bool := l.names.isPrefixOf other.names

/-- The absolute path of a place. -/
def text (l : Location) : String :=
  String.ofList ('/' :: Text.joined '/' (l.names.map String.toList))

/-- The part of the name after its last point, unless the name starts with that point. -/
def extension? (l : Location) : Option (List Char) := do
  let name ← l.names.getLast?
  let backwards := name.toList.reverse
  match backwards.dropWhile (· ≠ '.') with
  | _ :: _ :: _ => some (backwards.takeWhile (· ≠ '.')).reverse
  | _ => none

end Location

namespace Path

/-- The path starts at the root. -/
def isAbsolute (path : String) : Bool := path.toList.head? = some '/'

/-- The names between the slashes. -/
def names (path : String) : List String := (Text.pieces '/' path.toList).map String.ofList

/-- A name that leads to the directory itself. -/
def isIdle (name : String) : Bool := name = "" || name = "."

/-- The names on the way to a directory, and the name of something in it. Slashes and points at the
end of either do not count; two points are no name of something. -/
def split? (path : String) : Option (List String × String) :=
  match (names path).reverse.dropWhile isIdle with
  | name :: before =>
    if name = ".." then none else some ((before.dropWhile isIdle).reverse, name)
  | [] => none

/-- The text of names with slashes between them. -/
def text (names : List String) : String := "/".intercalate names

/-- The path as seen from the directory. -/
def join (directory path : String) : String :=
  if isAbsolute path ∨ directory.isEmpty then path
  else if directory.toList.getLast? = some '/' then directory ++ path
  else directory ++ "/" ++ path

end Path

end EditorSession
