import EditorSession.Config.Layer

/-! # Mergers

Layers are merged by code that ortho_config generates, which is not part of this library. A `Merger`
is such code: it starts with nothing, takes the layers one after the other and finishes with a
configuration. `Merger.Laws` says what is relied on: objects are laid over each other recursively, a
layer that is no object is refused, and the configuration is read from the object that was gathered.
Whatever else a merger does is left open. `Config.merger` is the one that runs. -/

namespace EditorSession

open Json (DecodeError)

/-! ### Laying one value over another -/

namespace Json

/-- What a name holds when one thing is laid over another, either of which may be missing. -/
def overlay? (overlay : Json → Json → Json) : Option Json → Option Json → Option Json
  | none, below => below
  | some value, none => some value
  | some value, some below => some (overlay value below)

/-- Values are laid over each other recursively, the first over the second. -/
structure OverlayLaws (overlay : Json → Json → Json) : Prop where
  /-- A value that is no object replaces what is below. -/
  replacing : ∀ value below, (∀ members, value ≠ object members) → overlay value below = value
  /-- A value that is no object is replaced. -/
  replaced : ∀ members below, (∀ base, below ≠ object base) →
    overlay (object members) below = object members
  /-- Objects are laid over each other name by name. -/
  merging : ∀ upper base, ∃ members, overlay (object upper) (object base) = object members ∧
    ((upper.map Prod.fst).Nodup → ∀ name,
      find name members = overlay? overlay (find name upper) (find name base))

end Json

/-! ### Mergers -/

/-- A way to merge layers, which fails with an `ε`. -/
structure Merger (ε : Type) where
  /-- What was gathered from the layers so far. -/
  State : Type
  /-- Nothing is gathered. -/
  start : State
  /-- Takes one more layer. -/
  add : State → Layer → Except ε State
  /-- Makes a configuration of what was gathered. -/
  finish : State → Except ε Config
  /-- The members that were gathered. -/
  members : State → List (String × Json)
  /-- The first value laid over the second. -/
  overlay : Json → Json → Json
  /-- The failure when no configuration can be read. -/
  invalid : DecodeError → ε

namespace Merger

variable {ε : Type}

/-- The configuration that the layers make when each is laid over the ones before it. -/
def merge (m : Merger ε) (layers : List Layer) : Except ε Config :=
  layers.foldlM m.add m.start >>= m.finish

/-- What is relied on when layers are merged. -/
structure Laws (m : Merger ε) : Prop where
  overlay : Json.OverlayLaws m.overlay
  start : m.members m.start = []
  /-- A layer that is an object is laid over what was gathered. -/
  add_object : ∀ s l upper, l.value = .object upper → ∃ s', m.add s l = .ok s' ∧
    .object (m.members s') = m.overlay (.object upper) (.object (m.members s))
  /-- The members stay in the order of their names. -/
  add_ordered : ∀ s l s', m.add s l = .ok s' → Json.Ordered (m.members s) →
    Json.Ordered (m.members s')
  /-- A layer that is no object is refused. -/
  add_other : ∀ s l, (∀ members, l.value ≠ .object members) → ∃ e, m.add s l = .error e
  /-- What was gathered is read as a configuration. -/
  finish_members : ∀ s, m.members s ≠ [] →
    m.finish s = (Config.ofValue (.object (m.members s))).mapError m.invalid
  /-- If nothing was gathered, there is either no configuration or that of the defaults. -/
  finish_nothing : ∀ s c, m.members s = [] → m.finish s = .ok c → c = Config.default

end Merger

end EditorSession
