import EditorSession.Json.Basic

/-! # Values along a path

`Json.lookup` follows the keys of a path through nested objects. A null counts as missing at every
level, and the empty path leads nowhere. -/

namespace EditorSession.Json

/-- The member of that name, unless it is null. -/
def child? (key : String) (tree : Json) : Option Json :=
  match tree.member? key with
  | none | some null => none
  | some value => some value

/-- The value at the end of a path of keys, none of which leads to a null. -/
def lookup (tree : Json) : List String → Option Json
  | [] => none
  | [key] => tree.child? key
  | key :: next :: rest => (tree.child? key).bind fun value => value.lookup (next :: rest)

/-- The boolean at the end of a path. -/
def lookupBool (tree : Json) (path : List String) : Option Bool :=
  (tree.lookup path).bind boolean?

@[simp] theorem lookup_nil (tree : Json) : tree.lookup [] = none := rfl

@[simp] theorem lookup_singleton (tree : Json) (key : String) :
    tree.lookup [key] = tree.child? key := rfl

@[simp] theorem lookup_cons_cons (tree : Json) (key next : String) (rest : List String) :
    tree.lookup (key :: next :: rest)
      = (tree.child? key).bind fun value => value.lookup (next :: rest) := rfl

/-- A child is a member of an object and not null. -/
theorem child?_eq_some_iff {key : String} {tree value : Json} :
    tree.child? key = some value ↔ tree.member? key = some value ∧ value ≠ null := by
  unfold child?
  split <;> simp_all
  grind

end EditorSession.Json
