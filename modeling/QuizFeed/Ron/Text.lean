import QuizFeed.Ron.Cursor

/-!
# Strings and characters in RON

A string stands between double quotes and may hold escapes, or stands raw between a quote and as
many `#` signs on either side. Characters stand between single quotes.
-/

namespace QuizFeed.Ron.Reader

/-- The value of a hexadecimal digit. -/
def hexadecimal? (digit : Char) : Option Nat :=
  let code := digit.toNat
  if 48 ≤ code ∧ code ≤ 57 then some (code - 48)
  else if 97 ≤ code ∧ code ≤ 102 then some (code - 87)
  else if 65 ≤ code ∧ code ≤ 70 then some (code - 55)
  else none

/-- A hexadecimal digit. -/
def hexadecimalDigit : Reader Nat := do
  match hexadecimal? (← step) with
  | some value => pure value
  | none => fail .escapeNotHexadecimal

/-- The byte that two hexadecimal digits denote. -/
def escapedByte : Reader Nat := do
  let high ← hexadecimalDigit
  let low ← hexadecimalDigit
  pure (high * 16 + low)

/-- The one character that some bytes are the UTF-8 form of. -/
def characterOf? (bytes : List Nat) : Option Char :=
  match (String.fromUTF8? ⟨(bytes.map UInt8.ofNat).toArray⟩).map String.toList with
  | some [character] => some character
  | _ => none

/-- The character that some escaped bytes and up to `more` further ones denote. -/
def escapedBytes (bytes : List Nat) : Nat → Reader Char
  | 0 => fail .escapeNotBytes
  | more + 1 => do
    if ← accept ['\\', 'x'] then
      let bytes := bytes ++ [← escapedByte]
      match characterOf? bytes with
      | some character => pure character
      | none => escapedBytes bytes more
    else fail .escapeNotBytes

/-- Up to `more` further hexadecimal digits before a closing brace: their number and value. -/
def escapedCode (digits value : Nat) : Nat → Reader (Nat × Nat)
  | 0 => pure (digits, value)
  | more + 1 => do
    match ← peek with
    | none => fail .endOfText
    | some '\x7d' => pure (digits, value)
    | some _ =>
      let digit ← hexadecimalDigit
      escapedCode (digits + 1) (value * 16 + digit) more

/-- The character with a code, if there is one. -/
def characterWithCode? (code : Nat) : Option Char :=
  if valid : code.isValidChar then some (Char.ofNatAux code valid) else none

/-- The character that the code of an escape denotes. -/
def escapedCharacter : Reader Char := do
  expect '\x7b' .escapeWithoutOpening
  let (digits, code) ← escapedCode 0 0 6
  if digits = 0 then fail .escapeWithoutDigits
  expect '\x7d' .escapeWithoutClosing
  match characterWithCode? code with
  | some character => pure character
  | none => fail .escapeNotCharacter

/-- The literals that may hold escapes. -/
inductive Literal where
  | string
  | character
  | byteString
  | byte
  deriving DecidableEq, Repr

/-- Whether a literal holds bytes. -/
def Literal.isBinary : Literal → Bool
  | string | character => false
  | byteString | byte => true

/-- The character that an escape denotes, behind its backslash; bytes count as characters. Only a
string joins escaped bytes to one character, and a byte takes no code of a character. -/
def escape (literal : Literal) : Reader Char := do
  match ← step with
  | '\'' => pure '\''
  | '"' => pure '"'
  | '\\' => pure '\\'
  | 'n' => pure '\n'
  | 'r' => pure '\r'
  | 't' => pure '\t'
  | '0' => pure '\x00'
  | 'x' =>
    let byte ← escapedByte
    if byte < 128 || literal.isBinary then pure (Char.ofNat byte)
    else if literal = .character then fail .escapeNotBytes
    else escapedBytes [byte] 3
  | 'u' =>
    let character ← escapedCharacter
    if literal = .byte then fail .escapeNotByte else pure character
  | _ => fail .unknownEscape

/-- The characters of a string up to its closing quote. -/
def stringRest (literal : Literal) (unclosed : Cause) : Nat → List Char → Reader (List Char)
  | 0, _ => fail unclosed
  | fuel + 1, gathered => do
    let rest ← unread
    if !rest.contains '"' then fail unclosed
    else
      let run := rest.takeWhile fun character => character != '"' && character != '\\'
      advance (run.length + 1)
      if (rest.drop run.length).head? = some '"' then pure (gathered ++ run)
      else
        let character ← escape literal
        stringRest literal unclosed fuel (gathered ++ run ++ [character])

/-- What stands before a text, and what stands behind it, at its first occurrence. -/
def splitAtText (text : List Char) : List Char → Option (List Char × List Char)
  | [] => if text.isEmpty then some ([], []) else none
  | character :: rest =>
    if text.isPrefixOf (character :: rest) then some ([], (character :: rest).drop text.length)
    else (splitAtText text rest).map fun (before, after) => (character :: before, after)

/-- The characters of a raw string behind its `r`. -/
def rawString (unopened unclosed : Cause) : Reader (List Char) := do
  let hashes := (← unread).takeWhile (· == '#')
  advance hashes.length
  expect '"' unopened
  match splitAtText ('"' :: hashes) (← unread) with
  | none => fail unclosed
  | some (content, _) =>
    advance (content.length + hashes.length + 1)
    pure content

/-- A string. -/
def string : Reader String := do
  if ← acceptOne '"' then
    pure (String.ofList (← stringRest .string .expectedStringEnd ((← unread).length + 1) []))
  else if ← acceptOne 'r' then
    pure (String.ofList (← rawString .expectedString .expectedStringEnd))
  else fail .expectedString

/-- Moves over a byte string. -/
def byteString : Reader Unit := do
  if ← accept ['b', '"'] then
    let _ ← stringRest .byteString .expectedByteStringEnd ((← unread).length + 1) []
  else if ← accept ['b', 'r'] then
    let _ ← rawString .expectedByteString .expectedByteStringEnd
  else fail .expectedByteString

/-- Moves over a character. -/
def character : Reader Unit := do
  expect '\'' .expectedCharacter
  if (← step) = '\\' then
    let _ ← escape .character
  expect '\'' .expectedCharacter

end QuizFeed.Ron.Reader
