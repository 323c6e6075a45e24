import EditorSession.Decimal.Double

/-! # JSON values

A number is an integer between `-2^63` and `2^64 - 1` or a binary64 number. An object is the list of
its members. A value that was read holds them in ascending order of their names, each name once:
`Json.insert` keeps that order, and `Json.ofMembers` builds an object from members in any order, the
last of one name winning. -/

namespace EditorSession

/-- A JSON number: an integer, or a binary64 number. -/
inductive Json.Number where
  | integer (value : Int)
  | double (value : Double)
deriving DecidableEq, Repr

/-- A JSON value. -/
inductive Json where
  | null
  | boolean (value : Bool)
  | number (value : Json.Number)
  | string (value : String)
  | array (items : List Json)
  | object (members : List (String × Json))
deriving Repr

namespace Json

instance : Inhabited Json := ⟨null⟩

/-- The integer as a JSON number. -/
def int (value : Int) : Json := number (.integer value)

/-! ### Equality -/

mutual
/-- Equality of values is decidable. -/
def decEq : (a b : Json) → Decidable (a = b)
  | null, null => isTrue rfl
  | boolean a, boolean b => decidable_of_iff (a = b) (by simp)
  | number a, number b => decidable_of_iff (a = b) (by simp)
  | string a, string b => decidable_of_iff (a = b) (by simp)
  | array a, array b =>
    match decEqItems a b with
    | isTrue h => isTrue (h ▸ rfl)
    | isFalse h => isFalse fun e => h (by injection e)
  | object a, object b =>
    match decEqMembers a b with
    | isTrue h => isTrue (h ▸ rfl)
    | isFalse h => isFalse fun e => h (by injection e)
  | null, boolean _ | null, number _ | null, string _ | null, array _ | null, object _
  | boolean _, null | boolean _, number _ | boolean _, string _ | boolean _, array _
  | boolean _, object _ | number _, null | number _, boolean _ | number _, string _
  | number _, array _ | number _, object _ | string _, null | string _, boolean _
  | string _, number _ | string _, array _ | string _, object _ | array _, null
  | array _, boolean _ | array _, number _ | array _, string _ | array _, object _
  | object _, null | object _, boolean _ | object _, number _ | object _, string _
  | object _, array _ => isFalse nofun

/-- Equality of lists of values is decidable. -/
def decEqItems : (a b : List Json) → Decidable (a = b)
  | [], [] => isTrue rfl
  | x :: xs, y :: ys =>
    match decEq x y, decEqItems xs ys with
    | isTrue h, isTrue hs => isTrue (h ▸ hs ▸ rfl)
    | isFalse h, _ => isFalse fun e => h (by injection e)
    | _, isFalse hs => isFalse fun e => hs (by injection e)
  | [], _ :: _ | _ :: _, [] => isFalse nofun

/-- Equality of member lists is decidable. -/
def decEqMembers : (a b : List (String × Json)) → Decidable (a = b)
  | [], [] => isTrue rfl
  | (k, x) :: xs, (l, y) :: ys =>
    match decEq x y, decEqMembers xs ys with
    | isTrue h, isTrue hs => decidable_of_iff (k = l) (by subst h; subst hs; simp)
    | isFalse h, _ => isFalse fun e => h (by injection e with e _; injection e)
    | _, isFalse hs => isFalse fun e => hs (by injection e)
  | [], _ :: _ | _ :: _, [] => isFalse nofun
end

instance : DecidableEq Json := decEq

/-! ### Order of names -/

/-- The first text comes before the second when the texts are compared by code points, which is the
order of their UTF-8 bytes. -/
def precedes : List Char → List Char → Bool
  | _, [] => false
  | [], _ :: _ => true
  | c :: cs, d :: ds =>
    if c.toNat < d.toNat then true else if d.toNat < c.toNat then false else precedes cs ds

/-- The names ascend. -/
def Ordered (members : List (String × Json)) : Prop :=
  members.Pairwise fun m m' => precedes m.1.toList m'.1.toList = true

/-- An object names each of its members once. -/
def Neat (v : Json) : Prop := ∀ members, v = object members → (members.map Prod.fst).Nodup

/-! ### Members -/

/-- Adds a member at its place in the order of names; a member of the same name is replaced. -/
def insert (name : String) (value : Json) : List (String × Json) → List (String × Json)
  | [] => [(name, value)]
  | (k, v) :: rest =>
    if k = name then (name, value) :: rest
    else if precedes name.toList k.toList then (name, value) :: (k, v) :: rest
    else (k, v) :: insert name value rest

/-- The object of the members, of which the last of each name counts. -/
def ofMembers (members : List (String × Json)) : Json :=
  object (members.foldl (fun acc m => insert m.1 m.2 acc) [])

/-- The value of the first member of that name. -/
def find (name : String) : List (String × Json) → Option Json
  | [] => none
  | (k, v) :: rest => if k = name then some v else find name rest

/-- The member of an object; other values have none. -/
def member? (name : String) : Json → Option Json
  | object members => find name members
  | _ => none

/-- The boolean that a value is, if it is one. -/
def boolean? : Json → Option Bool
  | boolean b => some b
  | _ => none

/-- The string that a value is, if it is one. -/
def string? : Json → Option String
  | string s => some s
  | _ => none

/-- The items of an array; other values have none. -/
def items? : Json → Option (List Json)
  | array items => some items
  | _ => none

/-! ### Looking up inserted members -/

theorem find_insert_self (name : String) (value : Json) (members : List (String × Json)) :
    find name (insert name value members) = some value := by
  induction members with
  | nil => simp [insert, find]
  | cons m rest ih => grind [insert, find]

theorem find_insert_of_ne {name other : String} (h : other ≠ name) (value : Json)
    (members : List (String × Json)) :
    find other (insert name value members) = find other members := by
  induction members with
  | nil => simp [insert, find, Ne.symm h]
  | cons m rest ih => grind [insert, find]

end Json

end EditorSession
