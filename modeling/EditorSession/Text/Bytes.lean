/-! # Texts cut by bytes

A position in a text may be counted in the bytes of its UTF-8 form. `takeBytes` is what stands
before a position and `dropBytes` what stands behind it; a position inside of a character counts as
the one behind it. -/

namespace EditorSession.Text

/-- The first bytes, so many of them. -/
def takeBytes : Nat → List Char → List Char
  | 0, _ => []
  | _ + 1, [] => []
  | n + 1, c :: cs => c :: takeBytes (n + 1 - c.utf8Size) cs
termination_by _ cs => cs.length

/-- What is left after so many bytes. -/
def dropBytes : Nat → List Char → List Char
  | 0, cs => cs
  | _ + 1, [] => []
  | n + 1, c :: cs => dropBytes (n + 1 - c.utf8Size) cs
termination_by _ cs => cs.length

/-- The bytes from the first position up to the second. -/
def slice (cs : List Char) (first last : Nat) : List Char :=
  takeBytes (last - first) (dropBytes first cs)

end EditorSession.Text
