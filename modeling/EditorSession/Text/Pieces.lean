/-! # Pieces of a text

`pieces` splits a text at a separator, and `joined` puts the pieces together again. `cutAtLast?`
splits a text at the last place where a mark stands. -/

namespace EditorSession.Text

/-- The pieces between the separators: one more than there are separators. -/
def pieces (separator : Char) : List Char → List (List Char)
  | [] => [[]]
  | c :: cs =>
    if c = separator then [] :: pieces separator cs
    else match pieces separator cs with
      | [] => [[c]]
      | piece :: rest => (c :: piece) :: rest

/-- The pieces with a separator between any two of them. -/
def joined (separator : Char) : List (List Char) → List Char
  | [] => []
  | [piece] => piece
  | piece :: next :: rest => piece ++ separator :: joined separator (next :: rest)

theorem pieces_ne_nil (separator : Char) (cs : List Char) : pieces separator cs ≠ [] := by
  cases cs with
  | nil => simp [pieces]
  | cons c cs =>
    unfold pieces
    split
    · simp
    · split <;> simp

/-- What stands before the last place where the mark stands, and what follows the mark there. -/
def cutAtLast? (mark : List Char) : List Char → Option (List Char × List Char)
  | [] => none
  | c :: cs =>
    match cutAtLast? mark cs with
    | some (before, after) => some (c :: before, after)
    | none => (mark.isPrefixOf? (c :: cs)).map fun after => ([], after)

theorem eq_append_of_isPrefixOf? {mark cs rest : List Char}
    (h : mark.isPrefixOf? cs = some rest) : cs = mark ++ rest := by
  induction mark generalizing cs with
  | nil => exact Option.some.inj h
  | cons m mark ih =>
    cases cs with
    | nil => cases h
    | cons c cs =>
      change (if m == c then mark.isPrefixOf? cs else none) = some rest at h
      split at h
      · next hc => rw [ih h, beq_iff_eq.1 hc]; rfl
      · simp at h

end EditorSession.Text
