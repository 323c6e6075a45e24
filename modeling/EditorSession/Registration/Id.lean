/-! # Registration identifiers

A server names each dynamic registration by an identifier of its own. Identifiers are opaque texts,
ordered by code points, which is the order of their UTF-8 bytes. `RegistrationId.ofRandom` lays out
a random identifier of version 4. -/

namespace EditorSession

/-- The name that the server gives a dynamic registration. -/
structure RegistrationId where
  text : String
deriving DecidableEq, Repr

namespace RegistrationId

/-! ### Order -/

/-- The order of two texts by code points. -/
def compareChars : List Char → List Char → Ordering
  | [], [] => .eq
  | [], _ :: _ => .lt
  | _ :: _, [] => .gt
  | c :: cs, d :: ds =>
    if c.toNat < d.toNat then .lt else if d.toNat < c.toNat then .gt else compareChars cs ds

/-- The order of identifiers. -/
def order (a b : RegistrationId) : Ordering := compareChars a.text.toList b.text.toList

/-! ### Random identifiers -/

/-- The lowest digits of a number in hexadecimal, the highest of them first. -/
def hexDigits (count value : Nat) : List Char :=
  (List.range count).reverse.map fun i => Nat.digitChar (value / Nat.pow 16 i % 16)

/-- The identifier of version 4 with the random bits of a number below `2 ^ 122`: twelve digits, the
version, three digits, a digit of the variant, fifteen digits. -/
def ofRandom (bits : Nat) : RegistrationId :=
  let low := hexDigits 12 bits
  let rest := bits / Nat.pow 2 48
  let variant := hexDigits 4 (0x8000 + rest % Nat.pow 2 14)
  let rest := rest / Nat.pow 2 14
  let version := hexDigits 4 (0x4000 + rest % Nat.pow 2 12)
  let rest := rest / Nat.pow 2 12
  let middle := hexDigits 4 rest
  let high := hexDigits 8 (rest / Nat.pow 2 16)
  ⟨String.ofList (high ++ '-' :: middle ++ '-' :: version ++ '-' :: variant ++ '-' :: low)⟩

end RegistrationId

end EditorSession
