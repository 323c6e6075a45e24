import EditorSession.Config.Merger

/-! # Merging layers by overlaying objects

Objects are laid over each other key by key, and any other value replaces what was there. Layers
without keys leave no trace.

This is how the code that ortho_config generates merges layers, as far as observed; it is not part
of this library. What is proved of merging is proved of every `Merger` that keeps `Merger.Laws`, of
which `Config.merger` is the one that runs. -/

namespace EditorSession

open Json (DecodeError)

/-! ### Laying one value over another -/

namespace Json

mutual
/-- The first value laid over the second. -/
def overlay : Json → Json → Json
  | object members, object base => object (overlayMembers members base)
  | value, _ => value

/-- Members laid over the members of an object. -/
def overlayMembers : List (String × Json) → List (String × Json) → List (String × Json)
  | [], base => base
  | (name, value) :: rest, base =>
    let merged := match find name base with
      | some below => overlay value below
      | none => value
    overlayMembers rest (insert name merged base)
end

/-- The kinds of value that are no object, with an article. -/
def kind : Json → String
  | null => "null"
  | boolean _ => "a boolean"
  | number _ => "a number"
  | string _ => "a string"
  | array _ => "an array"
  | object _ => "an object"

@[simp] theorem overlayMembers_nil (base : List (String × Json)) :
    overlayMembers [] base = base := by
  simp [overlayMembers]

theorem overlay_of_not_object {value : Json} (h : ∀ members, value ≠ object members) (base : Json) :
    overlay value base = value := by
  cases value <;> simp_all [overlay]

end Json

/-! ### Layers -/

/-- Why layers make no configuration. -/
inductive MergeError where
  /-- The layer is no object. -/
  | notObject (layer : Layer)
  /-- The merged value is no configuration. -/
  | invalid (error : DecodeError)
deriving DecidableEq, Repr

/-- The text of a failure. -/
def MergeError.message : MergeError → String
  | notObject layer =>
    "Declarative merge for Config expects JSON objects but the " ++ layer.origin.name
      ++ " layer supplied " ++ layer.value.kind ++ ". "
      ++ (layer.origin.path?.map fun path => "Source: " ++ path ++ ". ").getD ""
      ++ "Non-object layers would overwrite accumulated state."
  | invalid (.data fault) => fault.message
  | invalid (.form _) => "malformed value"

namespace Config

/-- Lays a layer over the members gathered so far. -/
def addLayer (members : List (String × Json)) (layer : Layer) :
    Except MergeError (List (String × Json)) :=
  match layer.value with
  | .object upper => .ok (Json.overlayMembers upper members)
  | _ => .error (.notObject layer)

/-- The merged value: null as long as no layer has a key. -/
def mergedValue : List (String × Json) → Json
  | [] => .null
  | members => .object members

/-- The merger that runs. -/
def merger : Merger MergeError where
  State := List (String × Json)
  start := []
  add := addLayer
  finish members := (Config.ofValue (mergedValue members)).mapError .invalid
  members := fun members => members
  overlay := Json.overlay
  invalid := .invalid

/-- The configuration that the layers make when each is laid over the ones before it. -/
def ofLayers (layers : List Layer) : Except MergeError Config := merger.merge layers

end Config

end EditorSession
