import EditorSession.Decimal.Numeral
import EditorSession.Text.Hexadecimal
import EditorSession.Text.Pieces

/-! # References to resources

A `Uri` is a text that reads as a scheme, an authority, a path, a query and a fragment, each of
which but the path may be missing. `Uri.read` goes through these parts from left to right and stops
at the first defect. Every character that it passes is ASCII, so a position counts bytes as well as
characters.

This is how the type for references of lsp-types is assumed to read a text. -/

namespace EditorSession

/-- What is wrong with a reference, and where. -/
inductive UriDefect where
  | unexpectedCharacter (position : Nat)
  /-- A percent sign without two hexadecimal digits behind it. -/
  | percentEncoding (position : Nat)
  /-- Brackets that do not hold an address. -/
  | addressLiteral (position : Nat)
deriving DecidableEq, Repr

/-- The text of a defect. -/
def UriDefect.message : UriDefect → String
  | unexpectedCharacter i => "unexpected character at index " ++ toString i
  | percentEncoding i => "invalid percent-encoded octet at index " ++ toString i
  | addressLiteral i => "invalid IP literal at index " ++ toString i

namespace Uri

/-! ### Characters of the parts -/

/-- A character that stands for itself in every part. -/
def isPlain (c : Char) : Bool := c.isAlphanum || "-._~!$&'()*+,;=".toList.contains c

/-- A character of a scheme. -/
def isScheme (c : Char) : Bool := c.isAlphanum || c = '+' || c = '-' || c = '.'

/-- A character before the first slash or colon of a reference without a scheme. -/
def isSegment (c : Char) : Bool := isPlain c || c = '@'

/-- A character of a path. -/
def isPath (c : Char) : Bool := isSegment c || c = ':' || c = '/'

/-- A character of a query or of a fragment. -/
def isQuery (c : Char) : Bool := isPath c || c = '?'

/-- A character of a user or of a host with its port. -/
def isAuthority (c : Char) : Bool := isPlain c || c = ':'

/-! ### Addresses in brackets -/

/-- A hexadecimal digit. -/
def isHex (c : Char) : Bool := (Text.hexDigit? c).isSome

/-- A number up to 255 without a zero in front. -/
def isOctet (cs : List Char) : Bool :=
  !cs.isEmpty && cs.length ≤ 3 && cs.all Char.isDigit && (cs.head? ≠ some '0' || cs.length = 1)
    && Numeral.natural cs ≤ 255

/-- Four octets between points. -/
def isDotted (cs : List Char) : Bool :=
  let octets := Text.pieces '.' cs
  octets.length = 4 && octets.all isOctet

/-- One to four hexadecimal digits. -/
def isGroup (cs : List Char) : Bool := !cs.isEmpty && cs.length ≤ 4 && cs.all isHex

/-- How many groups are between the colons. The last of them may be four octets, which count as two
groups. -/
def groups? (lastMayBeDotted : Bool) : List (List Char) → Option Nat
  | [] => some 0
  | [last] =>
    if isGroup last then some 1
    else if lastMayBeDotted && isDotted last then some 2
    else none
  | piece :: rest => if isGroup piece then (groups? lastMayBeDotted rest).map (1 + ·) else none

/-- The groups of a text, which has none if it is empty. -/
def groupsOf? (lastMayBeDotted : Bool) (cs : List Char) : Option Nat :=
  if cs.isEmpty then some 0 else groups? lastMayBeDotted (Text.pieces ':' cs)

/-- What comes before the first two colons in a row, and what comes after them. -/
def cutAtColons? : List Char → Option (List Char × List Char)
  | ':' :: ':' :: cs => some ([], cs)
  | c :: cs => (cutAtColons? cs).map fun (before, after) => (c :: before, after)
  | [] => none

/-- An address of eight groups. Two colons in a row stand for one or more groups of zeros. -/
def isAddress (cs : List Char) : Bool :=
  match cutAtColons? cs with
  | none => groupsOf? true cs = some 8
  | some (before, after) =>
    match groupsOf? false before, groupsOf? true after with
    | some m, some n => m + n ≤ 7
    | _, _ => false

/-! ### Parts -/

/-- What is left of a reference, and where it starts. -/
structure Rest where
  position : Nat
  text : List Char
deriving DecidableEq, Repr

/-- What is left after the characters that are allowed and the percent-encoded octets. -/
def skip (allowed : Char → Bool) (position : Nat) : List Char → Except UriDefect Rest
  | '%' :: high :: low :: cs =>
    if isHex high && isHex low then skip allowed (position + 3) cs
    else .error (.percentEncoding position)
  | c :: cs =>
    if c = '%' then .error (.percentEncoding position)
    else if allowed c then skip allowed (position + 1) cs
    else .ok ⟨position, c :: cs⟩
  | [] => .ok ⟨position, []⟩

namespace Rest

/-- What is left after the allowed characters and the percent-encoded octets. -/
def skip (r : Rest) (allowed : Char → Bool) : Except UriDefect Rest :=
  Uri.skip allowed r.position r.text

/-- What is left after so many characters. -/
def drop (r : Rest) (n : Nat) : Rest := ⟨r.position + n, r.text.drop n⟩

/-- What is left after a colon and the digits behind it, if a colon comes first. -/
def skipPort (r : Rest) : Rest :=
  match r.text with
  | ':' :: cs => r.drop (1 + (cs.takeWhile Char.isDigit).length)
  | _ => r

/-- What is left after brackets, which come first and hold an address. -/
def skipLiteral (r : Rest) : Except UriDefect Rest :=
  let inside := (r.text.drop 1).takeWhile (· ≠ ']')
  if inside.length + 1 < r.text.length && isAddress inside then .ok (r.drop (inside.length + 2))
  else .error (.addressLiteral r.position)

/-- What is left after a host. -/
def skipHost (r : Rest) : Except UriDefect Rest :=
  match r.text with
  | '[' :: _ => r.skipLiteral
  | _ => r.skip isPlain

/-- Checks a host with its port, which start at the position. Of several colons the first is one too
many; of a port that is no number, the last character that is no digit is shown. -/
def checkHostPort (position : Nat) (text : List Char) : Except UriDefect Unit :=
  let host := text.takeWhile (· ≠ ':')
  let front := (text.reverse.dropWhile Char.isDigit).length
  match text.count ':' with
  | 0 => .ok ()
  | 1 =>
    if host.length + 1 = front then .ok ()
    else .error (.unexpectedCharacter (position + front - 1))
  | _ => .error (.unexpectedCharacter (position + host.length))

/-- What is left after an authority, which may be empty. -/
def skipAuthority (r : Rest) : Except UriDefect Rest := do
  let stop ← r.skip isAuthority
  match stop.text with
  | '@' :: _ => return (← (stop.drop 1).skipHost).skipPort
  | '[' :: _ =>
    if stop.position = r.position then return (← stop.skipLiteral).skipPort
  | _ => pure ()
  checkHostPort r.position (r.text.take (stop.position - r.position))
  return stop

/-- What is left after the mark and the query or fragment that follows it, if the mark comes first.
-/
def skipMarked (r : Rest) (mark : Char) : Except UriDefect Rest :=
  if r.text.head? = some mark then (r.drop 1).skip isQuery else .ok r

/-- Nothing is left but a query and a fragment. -/
def finish (r : Rest) : Except UriDefect Unit := do
  let r ← (← r.skipMarked '?').skipMarked '#'
  if r.text.isEmpty then return else .error (.unexpectedCharacter r.position)

/-- Nothing is left but a path, a query and a fragment. -/
def finishPath (r : Rest) : Except UriDefect Unit := do (← r.skip isPath).finish

/-- The same after an authority, where a path starts with a slash. Only a path without other defects
is refused for its start. -/
def finishRootedPath (r : Rest) : Except UriDefect Unit := do
  let stop ← r.skip isPath
  if stop.position = r.position ∨ r.text.head? = some '/' then stop.finish
  else .error (.unexpectedCharacter r.position)

/-- Nothing is left but an authority, if two slashes come first, and a path with what may follow it.
-/
def finishHierarchy (r : Rest) : Except UriDefect Unit := do
  if ['/', '/'].isPrefixOf r.text then (← (r.drop 2).skipAuthority).finishRootedPath
  else r.finishPath

end Rest

/-- Reads a reference. Without a scheme its path has no colon before the first slash. -/
def read (text : String) : Except UriDefect Unit := do
  let whole : Rest := ⟨0, text.toList⟩
  let scheme := whole.text.takeWhile isScheme
  let rest := whole.drop scheme.length
  if rest.text.head? = some ':' then
    if scheme.head?.any Char.isAlpha then (rest.drop 1).finishHierarchy
    else .error (.unexpectedCharacter 0)
  else if ['/', '/'].isPrefixOf whole.text then whole.finishHierarchy
  else
    let rest ← whole.skip isSegment
    if rest.text.head? = some ':' then .error (.unexpectedCharacter rest.position)
    else rest.finishPath

end Uri

/-- A reference to a resource. -/
structure Uri where
  text : String
  read_text : Uri.read text = .ok ()
deriving DecidableEq, Repr

/-- The reference of that text. -/
def Uri.ofText (text : String) : Except UriDefect Uri :=
  match h : Uri.read text with
  | .ok () => .ok ⟨text, h⟩
  | .error defect => .error defect

end EditorSession
