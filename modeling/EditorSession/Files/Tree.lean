import EditorSession.Files.Path

/-! # Trees of files

A tree holds files with their contents. Directories are the places above a file, and the working
directory with the places above it. `FileTree.resolve` follows a path through existing directories,
and `FileTree.locate` finds something in the directory that a path of limited length names. -/

namespace EditorSession

/-- Files with their contents, and the directory from which relative paths are read. -/
structure FileTree where
  files : List (Location × String)
  working : Location
deriving DecidableEq, Repr

namespace FileTree

/-! ### Places -/

/-- What the file at that place holds. -/
def content? (t : FileTree) (l : Location) : Option String := t.files.lookup l

/-- A directory is at that place. -/
def isDirectory (t : FileTree) (l : Location) : Bool :=
  l.covers t.working || t.files.any fun (place, _) => l.covers place && l ≠ place

/-- Something is at that place. -/
def occupied (t : FileTree) (l : Location) : Bool := (t.content? l).isSome || t.isDirectory l

/-! ### Paths -/

/-- Why a path leads nowhere. -/
inductive PathFault where
  | missing
  /-- A file stands where a directory would have to be. -/
  | throughFile
  /-- The path or a name in it is too long. -/
  | tooLong
  /-- The path holds a null character. -/
  | nullCharacter
deriving DecidableEq, Repr

/-- The path of a directory has fewer bytes than this. -/
def maxPath : Nat := 4096

/-- A name has at most so many bytes. -/
def maxName : Nat := 255

/-- The text has a null character, which no name has. -/
def holdsNull (text : String) : Bool := text.toList.contains '\x00'

/-- Where the names lead from a place. Every name is looked up in a directory. -/
def walk (t : FileTree) (here : Location) : List String → Except PathFault Location
  | [] => if t.occupied here then .ok here else .error .missing
  | name :: rest =>
    if (t.content? here).isSome then .error .throughFile
    else if !t.isDirectory here then .error .missing
    else if Path.isIdle name then t.walk here rest
    else if name = ".." then t.walk here.parent rest
    else if holdsNull name then .error .nullCharacter
    else if maxName < name.utf8ByteSize then .error .tooLong
    else t.walk (here.child name) rest

/-- Where a path starts. -/
def start (t : FileTree) (path : String) : Location :=
  if Path.isAbsolute path then .root else t.working

/-- The place that a path names. Its names are looked up one after the other, so that they may be
any number. -/
def resolve (t : FileTree) (path : String) : Except PathFault Location :=
  if holdsNull path then .error .nullCharacter
  else if path.isEmpty then .error .missing
  else t.walk (t.start path) (Path.names path)

/-- The place of a name in the directory to which other names lead. The path of the directory is
limited as a whole. -/
def locate (t : FileTree) (start : Location) (directory : List String) (name : String) :
    Except PathFault Location :=
  if holdsNull (Path.text directory) then .error .nullCharacter
  else if maxPath ≤ (Path.text directory).utf8ByteSize then .error .tooLong
  else t.walk start (directory ++ [name])

end FileTree

end EditorSession
