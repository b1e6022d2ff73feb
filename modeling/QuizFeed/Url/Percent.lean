import QuizFeed.Text.Order

/-!
# Percent encoding

`encode` writes the characters of a set, and every character beyond ASCII, as the bytes of their
UTF-8 form in hexadecimal; `decode` reads such bytes back. The sets are those of the parts of a
url, each of which contains the controls.
-/

namespace QuizFeed.Url.Percent

/-- The upper-case hexadecimal digit with a value below 16. -/
def hexDigit (value : Nat) : Char :=
  if value < 10 then Char.ofNat (value + 48) else Char.ofNat (value - 10 + 65)

/-- The value of a hexadecimal digit. -/
def hexValue? (digit : Char) : Option Nat :=
  let code := digit.toNat
  if 48 ≤ code ∧ code ≤ 57 then some (code - 48)
  else if 97 ≤ code ∧ code ≤ 102 then some (code - 87)
  else if 65 ≤ code ∧ code ≤ 70 then some (code - 55)
  else none

/-- A byte as a percent sign and two digits. -/
def encodeByte (byte : UInt8) : List Char :=
  ['%', hexDigit (byte.toNat / 16), hexDigit (byte.toNat % 16)]

/-- Controls and all characters beyond ASCII. -/
def isControl (character : Char) : Bool :=
  character.toNat < 0x20 || 0x7F ≤ character.toNat

/-- What is encoded in a fragment. -/
def inFragment (character : Char) : Bool :=
  isControl character || [' ', '"', '<', '>', '`'].contains character

/-- What is encoded in a query. -/
def inQuery (character : Char) : Bool :=
  isControl character || [' ', '"', '#', '<', '>'].contains character

/-- What is encoded in the query of a url with a special scheme. -/
def inSpecialQuery (character : Char) : Bool :=
  inQuery character || character == '\''

/-- What is encoded in a path. -/
def inPath (character : Char) : Bool :=
  inFragment character || ['#', '?', '\x7b', '\x7d'].contains character

/-- What is encoded in user names and passwords. -/
def inUserinfo (character : Char) : Bool :=
  inPath character || ['/', ':', ';', '=', '@', '[', '\\', ']', '^', '|'].contains character

/-- Writes a text with the characters of a set encoded. -/
def encode (encoded : Char → Bool) (text : List Char) : List Char :=
  text.flatMap fun character =>
    if encoded character then (Text.bytes (String.singleton character)).flatMap encodeByte
    else [character]

/-- The byte that the two characters behind a percent sign denote. -/
def byte? (high low : Char) : Option UInt8 :=
  match hexValue? high, hexValue? low with
  | some high, some low => some (UInt8.ofNat (high * 16 + low))
  | _, _ => none

/-- The bytes of a text in which percent signs with two digits stand for one byte. -/
def decode : List Char → List UInt8
  | [] => []
  | '%' :: high :: low :: rest =>
    match byte? high low with
    | some byte => byte :: decode rest
    | none => Text.bytes "%" ++ decode (high :: low :: rest)
  | character :: rest => Text.bytes (String.singleton character) ++ decode rest

end QuizFeed.Url.Percent
