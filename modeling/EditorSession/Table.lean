/-! # Tables

A `Table` holds at most one entry for a key and keeps its entries in the order in which their keys
were first set. `Table.find?` is the view through which the operations are described:
`Table.find?_set` and `Table.find?_erase`. -/

namespace EditorSession

/-! ### Entry lists -/

namespace Entries

variable {κ α : Type} [DecidableEq κ]

/-- The value of the first entry for the key. -/
def find? (key : κ) : List (κ × α) → Option α
  | [] => none
  | (k, v) :: rest => if k = key then some v else find? key rest

/-- Replaces the first entry for the key, or adds one at the end. -/
def set (key : κ) (value : α) : List (κ × α) → List (κ × α)
  | [] => [(key, value)]
  | (k, v) :: rest => if k = key then (key, value) :: rest else (k, v) :: set key value rest

/-- Takes out every entry for the key. -/
def erase (key : κ) (entries : List (κ × α)) : List (κ × α) :=
  entries.filter fun e => e.1 ≠ key

theorem find?_set (key other : κ) (value : α) (entries : List (κ × α)) :
    find? other (set key value entries) =
      if other = key then some value else find? other entries := by
  induction entries with
  | nil => grind [set, find?]
  | cons e rest ih => grind [set, find?]

theorem find?_erase (key other : κ) (entries : List (κ × α)) :
    find? other (erase key entries) = if other = key then none else find? other entries := by
  induction entries with
  | nil => grind [erase, find?]
  | cons e rest ih =>
    unfold erase at ih ⊢
    by_cases h : e.1 = key <;> simp [h] <;> grind [find?]

theorem find?_isSome_iff (key : κ) (entries : List (κ × α)) :
    (find? key entries).isSome ↔ key ∈ entries.map Prod.fst := by
  induction entries with
  | nil => simp [find?]
  | cons e rest ih => grind [find?]

theorem keys_set (key : κ) (value : α) (entries : List (κ × α)) :
    (set key value entries).map Prod.fst
      = if key ∈ entries.map Prod.fst then entries.map Prod.fst
        else entries.map Prod.fst ++ [key] := by
  induction entries with
  | nil => simp [set]
  | cons e rest ih => grind [set]

theorem nodup_set {entries : List (κ × α)} (h : (entries.map Prod.fst).Nodup) (key : κ)
    (value : α) :
    ((set key value entries).map Prod.fst).Nodup := by
  rw [keys_set]
  split
  · exact h
  · rw [List.nodup_append]
    grind

theorem nodup_erase {entries : List (κ × α)} (h : (entries.map Prod.fst).Nodup) (key : κ) :
    ((erase key entries).map Prod.fst).Nodup :=
  h.sublist (List.filter_sublist.map Prod.fst)

end Entries

/-! ### Tables -/

/-- Entries with distinct keys. -/
structure Table (κ α : Type) where
  entries : List (κ × α)
  distinct : (entries.map Prod.fst).Nodup

namespace Table

variable {κ α : Type} [DecidableEq κ]

/-- No entries. -/
def empty : Table κ α := ⟨[], by simp⟩

instance : Inhabited (Table κ α) := ⟨empty⟩

/-- The value for the key. -/
def find? (t : Table κ α) (key : κ) : Option α := Entries.find? key t.entries

/-- Sets the value for the key. -/
def set (t : Table κ α) (key : κ) (value : α) : Table κ α :=
  ⟨Entries.set key value t.entries, Entries.nodup_set t.distinct key value⟩

/-- Takes out the entry for the key. -/
def erase (t : Table κ α) (key : κ) : Table κ α :=
  ⟨Entries.erase key t.entries, Entries.nodup_erase t.distinct key⟩

/-- The number of entries. -/
def size (t : Table κ α) : Nat := t.entries.length

theorem find?_set (t : Table κ α) (key other : κ) (value : α) :
    (t.set key value).find? other = if other = key then some value else t.find? other :=
  Entries.find?_set key other value t.entries

@[simp] theorem find?_set_self (t : Table κ α) (key : κ) (value : α) :
    (t.set key value).find? key = some value := by simp [find?_set]

theorem find?_erase (t : Table κ α) (key other : κ) :
    (t.erase key).find? other = if other = key then none else t.find? other :=
  Entries.find?_erase key other t.entries

end Table

end EditorSession
