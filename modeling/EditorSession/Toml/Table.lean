import EditorSession.Json.Basic

/-! # Tables under construction

The statements of a document build a tree of tables. A table is closed against what the document may
not say again: a header opens a table once, dotted keys extend only the tables that dotted keys
made, and a value is never extended.

This is how the TOML reader behind ortho_config reads a file, as far as observed. -/

namespace EditorSession.Toml

/-- How a table came into being. -/
inductive Opening where
  /-- Headers of tables inside it imply it. -/
  | implied
  /-- Dotted keys made it. -/
  | dotted
  /-- A header of its own opened it. -/
  | header
deriving DecidableEq, Repr

/-- What stands under a key. -/
inductive Node where
  | value (value : Json)
  | table (opening : Opening) (members : List (String × Node))
  /-- The tables of an array that headers extend, the newest first. -/
  | tables (newest : List (String × Node)) (older : List (List (String × Node)))

/-- The keys of a table with what stands under them, in the order of their appearance. -/
abbrev Members := List (String × Node)

namespace Members

/-! ### Keys -/

/-- What stands under the key. -/
def find? (key : String) : Members → Option Node
  | [] => none
  | (k, node) :: rest => if k = key then some node else find? key rest

/-- Puts the node under the key. -/
def set (key : String) (node : Node) : Members → Members
  | [] => [(key, node)]
  | (k, old) :: rest => if k = key then (key, node) :: rest else (k, old) :: set key node rest

/-! ### Headers -/

/-- Changes the table to which the keys of a header lead. Tables on the way that are missing are
implied, and of an array the newest table is meant. -/
def change (f : Members → Option Members) : List String → Members → Option Members
  | [], members => f members
  | key :: rest, members =>
    match find? key members with
    | none => (change f rest []).map fun inner => set key (.table .implied inner) members
    | some (.table opening inner) =>
      (change f rest inner).map fun inner => set key (.table opening inner) members
    | some (.tables newest older) =>
      (change f rest newest).map fun newest => set key (.tables newest older) members
    | some (.value _) => none

/-- Opens the table under the key, which may be implied already. -/
def openTable (key : String) (members : Members) : Option Members :=
  match find? key members with
  | none => some (set key (.table .header []) members)
  | some (.table .implied inner) => some (set key (.table .header inner) members)
  | some _ => none

/-- Adds a table to the array under the key. -/
def addTable (key : String) (members : Members) : Option Members :=
  match find? key members with
  | none => some (set key (.tables [] []) members)
  | some (.tables newest older) => some (set key (.tables [] (newest :: older)) members)
  | some _ => none

/-- Applies an operation on the last key of a header in the table to which the others lead. -/
def atLast (f : String → Members → Option Members) (keys : List String) (members : Members) :
    Option Members :=
  match keys.getLast? with
  | none => none
  | some key => change (f key) keys.dropLast members

/-! ### Dotted keys -/

/-- Sets the value to which dotted keys lead. The last table on the way has to be one that dotted
keys made; on the way to it they may pass through tables without a header of their own. -/
def assign (value : Json) : List String → Members → Option Members
  | [], _ => none
  | [key], members =>
    if (find? key members).isSome then none else some (set key (.value value) members)
  | key :: next :: rest, members =>
    match find? key members with
    | none =>
      (assign value (next :: rest) []).map fun inner => set key (.table .dotted inner) members
    | some (.table .dotted inner) =>
      (assign value (next :: rest) inner).map fun inner => set key (.table .dotted inner) members
    | some (.table .implied inner) =>
      if rest.isEmpty then none
      else (assign value (next :: rest) inner).map fun inner =>
        set key (.table .implied inner) members
    | some (.tables newest older) =>
      if rest.isEmpty then none
      else (assign value (next :: rest) newest).map fun newest =>
        set key (.tables newest older) members
    | some (.table .header _) | some (.value _) => none

/-- The table of pairs of dotted keys and values. -/
def ofPairs (pairs : List (List String × Json)) : Option Members :=
  pairs.foldlM (fun members pair => assign pair.2 pair.1 members) []

end Members

/-! ### Finished tables -/

mutual
/-- The value of a node. -/
def Node.toJson : Node → Json
  | .value value => value
  | .table _ members => .ofMembers (Members.toJson members)
  | .tables newest older =>
    .array (Members.toJsonItems older [.ofMembers (Members.toJson newest)])

/-- The members with their values. -/
def Members.toJson : List (String × Node) → List (String × Json)
  | [] => []
  | (key, node) :: rest => (key, node.toJson) :: Members.toJson rest

/-- The tables of an array, the newest first, put in front of the items in the opposite order. -/
def Members.toJsonItems : List (List (String × Node)) → List Json → List Json
  | [], items => items
  | newest :: older, items =>
    Members.toJsonItems older (.ofMembers (Members.toJson newest) :: items)
end

end EditorSession.Toml
