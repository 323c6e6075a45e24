import EditorSession.Decimal.Numeral
import EditorSession.Pattern.Defect
import EditorSession.Text.Caseless
import EditorSession.Text.Pieces

/-! # Conditions on fields

A directive of a log filter may ask for a field by its name, and for a value of it: the value is a
number, or a pattern that the field's text has to match.

This is how `EnvFilter` of tracing-subscriber is assumed to read such a condition. -/

namespace EditorSession.Log

/-- What is asked of the fields. -/
structure FieldCondition where
  name : List Char
  /-- A value is asked for. -/
  valued : Bool
deriving DecidableEq, Repr

namespace FieldCondition

/-- The words that stand for a number. -/
def numberWords : List (List Char) := ["inf", "infinity", "nan"].map String.toList

/-- A number in decimal notation, or a word for one, under a sign or none. -/
def isNumber (cs : List Char) : Bool :=
  let n := Numeral.ofChars cs
  numberWords.contains (Text.lower (Numeral.unsigned cs).2)
    || (Numeral.isDigits (n.whole ++ n.fraction.getD [])
      && n.exponent.all fun e => Numeral.isDigits (Numeral.unsigned e).2)

/-- Reads a name, and a value if one stands behind an equals sign. What stands behind a second one
does not matter. -/
def parse (cs : List Char) : Except Pattern.Defect FieldCondition :=
  match Text.pieces '=' cs with
  | name :: value :: _ =>
    match if isNumber value then none else Pattern.defect? value with
    | some defect => .error defect
    | none => .ok ⟨name, true⟩
  | _ => .ok ⟨cs, false⟩

end FieldCondition

end EditorSession.Log
