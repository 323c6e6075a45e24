/-! # Texts compared without regard to case

The case of the ASCII letters does not matter here; all other characters have to agree. -/

namespace EditorSession.Text

/-- The upper-case ASCII letters as lower-case ones. -/
def lower (cs : List Char) : List Char := cs.map Char.toLower

/-- What follows the word, which is given in lower case. -/
def afterWord? : List Char → List Char → Option (List Char)
  | [], cs => some cs
  | _ :: _, [] => none
  | w :: ws, c :: cs => if c.toLower = w then afterWord? ws cs else none

end EditorSession.Text
