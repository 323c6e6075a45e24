import EditorSession.Config.Loader
import EditorSession.Files.Tree
import EditorSession.Text.Caseless
import EditorSession.Toml.Reader

/-! # Reading configuration files

A file is a TOML document. Its key `extends` names another file, whose layer comes below its own:
`FileTree.layers` follows these names and returns the layers of the whole chain, the lowest first. A
chain that comes back to one of its files is refused.

This is how ortho_config reads files and those that they extend, as far as observed; it is not part
of this library. It belongs to `Config.loader`. What is proved of loading is proved of every
`Loader` and rests on none of it. -/

namespace EditorSession

/-- What is wrong with a file. -/
inductive FileFault where
  /-- Its path ends in no name. -/
  | nameless
  | unreachable (fault : FileTree.PathFault)
  /-- A directory is there. -/
  | notRegular
  /-- Its name has the extension of another format. -/
  | otherFormat
  | malformed
  /-- The file that it extends is not named by a text, or by the empty one. -/
  | invalidBase
deriving DecidableEq, Repr

/-- Why a file gives no layers. -/
inductive FileError where
  | faulty (path : String) (fault : FileFault)
  /-- The chain of files comes back to the last of the paths. -/
  | cyclic (paths : List String)
deriving DecidableEq, Repr

/-- The paths of a cycle in their order. -/
def FileError.cycle (paths : List String) : String := " -> ".intercalate paths

namespace FileTree

/-! ### One file -/

/-- The extensions of the formats that are not read, in lower case. -/
def otherFormats : List (List Char) :=
  ["json", "json5", "yaml", "yml"].map String.toList

/-- The key that names the file to extend. -/
def baseKey : String := "extends"

/-- The members of the file's document. -/
def document (place : Location) (content : String) : Except FileError Document :=
  if (place.extension?.map Text.lower).any otherFormats.contains then
    .error (.faulty place.text .otherFormat)
  else match Toml.parse content with
    | some members => .ok members
    | none => .error (.faulty place.text .malformed)

/-- The place of the file that the members extend, if they name one. -/
def base? (t : FileTree) (place : Location) (members : Document) :
    Except FileError (Option Location) :=
  match Json.find baseKey members with
  | none => .ok none
  | some (.string name) =>
    if name.isEmpty then .error (.faulty place.text .invalidBase)
    else
      let path := Path.join place.parent.text name
      match t.resolve path with
      | .error fault => .error (.faulty path (.unreachable fault))
      | .ok base => .ok (some base)
  | some _ => .error (.faulty place.text .invalidBase)

/-- The layer of a file, to which the name of the file that it extends does not belong. -/
def layer (place : Location) (members : Document) : Layer :=
  ⟨.file place.text, .ofMembers (members.filter fun member => member.1 ≠ baseKey)⟩

/-! ### Chains -/

/-- The files that a chain has not visited. -/
def unvisited (t : FileTree) (visited : List Location) : List (Location × String) :=
  t.files.filter fun file => file.1 ∉ visited

theorem mem_of_content? {t : FileTree} {l : Location} {content : String}
    (h : t.content? l = some content) : (l, content) ∈ t.files := by
  unfold content? at h
  generalize t.files = files at h
  induction files with
  | nil => simp at h
  | cons file rest ih =>
    obtain ⟨place, text⟩ := file
    rw [List.lookup_cons] at h
    by_cases hp : l = place
    · simp_all
    · have : (l == place) = false := by simpa using hp
      simp only [this] at h
      exact List.mem_cons_of_mem _ (ih h)

theorem length_unvisited_lt {t : FileTree} {l : Location} {content : String}
    {visited : List Location} (h : t.content? l = some content) (hv : l ∉ visited) :
    (t.unvisited (l :: visited)).length < (t.unvisited visited).length := by
  have key : t.unvisited (l :: visited) = (t.unvisited visited).filter fun file => file.1 ≠ l := by
    simp [unvisited, List.filter_filter, List.mem_cons, not_or]
  rw [key]
  refine List.length_filter_lt_length_iff_exists.2 ⟨(l, content), ?_, by simp⟩
  simpa [unvisited, hv] using mem_of_content? h

/-- The layers of the file and of those that it extends, the lowest first. The files visited before,
the last one first, extend this one. -/
def chain (t : FileTree) (visited : List Location) (place : Location) :
    Except FileError (List Layer) :=
  if _hv : place ∈ visited then
    .error (.cyclic ((place :: visited).reverse.map Location.text))
  else match _h : t.content? place with
    | none => .error (.faulty place.text (if place = .root then .nameless else .notRegular))
    | some content =>
      match document place content with
      | .error e => .error e
      | .ok members =>
        match t.base? place members with
        | .error e => .error e
        | .ok none => .ok [layer place members]
        | .ok (some base) =>
          match t.chain (place :: visited) base with
          | .error e => .error e
          | .ok below => .ok (below ++ [layer place members])
termination_by (t.unvisited visited).length
decreasing_by exact length_unvisited_lt ‹_› ‹_›

/-- The place of the file that a path names. The path leads to a file in a directory first, and as a
whole after that, when slashes at its end count. -/
def filePlace (t : FileTree) (path : String) : Except FileFault Location :=
  match Path.split? path with
  | none => .error .nameless
  | some (directory, name) =>
    match t.locate (t.start path) directory name with
    | .error fault => .error (.unreachable fault)
    | .ok place =>
      if (t.content? place).isSome then (t.resolve path).mapError .unreachable
      else .error .notRegular

/-- Nothing is where the path leads. -/
def isMissing (t : FileTree) (path : String) : Bool :=
  match t.filePlace path with
  | .error (.unreachable .missing) => true
  | _ => false

/-- The layers of the file that a path names. -/
def layers (t : FileTree) (path : String) : Except FileError (List Layer) :=
  match t.filePlace path with
  | .error fault => .error (.faulty path fault)
  | .ok place => t.chain [] place

end FileTree

end EditorSession
