import QuizFeed.Ron.Text

/-!
# Numbers in RON

Nothing in a document of this library is a number, so numbers are only checked and passed over:
integers of four bases with underscores and a type, and decimal fractions.
-/

namespace QuizFeed.Ron.Reader

/-- Whether a character may occur in an integer. -/
def isIntegerCharacter (character : Char) : Bool :=
  (hexadecimal? character).isSome || character == '_'

/-- Whether a character may occur in a fraction. -/
def isFloatCharacter (character : Char) : Bool :=
  Text.isAsciiDigit character || ['e', 'E', '.', '+', '-', '_'].contains character

/-- Whether the number that comes next is a fraction. -/
def seesFloat (rest : List Char) : Bool :=
  let digits := match rest with
    | '+' :: digits => digits
    | '-' :: digits => digits
    | digits => digits
  (digits.takeWhile isFloatCharacter).length > (digits.takeWhile isIntegerCharacter).length

/-- The place of the first underscore of a fraction that follows no digit. -/
def strayUnderscore (place : Nat) (allowed : Bool) : List Char → Option Nat
  | [] => none
  | '_' :: rest => if allowed then strayUnderscore (place + 1) true rest else some place
  | '.' :: rest => strayUnderscore (place + 1) false rest
  | character :: rest =>
    strayUnderscore (place + 1)
      (allowed || Text.isAsciiDigit character || character == 'e' || character == 'E') rest

/-- Whether a text is a decimal fraction: digits around at most one point, and an exponent. -/
def isFloat (text : List Char) : Bool :=
  let unsigned (text : List Char) := match text with
    | '+' :: rest => rest
    | '-' :: rest => rest
    | rest => rest
  let number := unsigned text
  let whole := number.takeWhile Text.isAsciiDigit
  let rest := number.drop whole.length
  let (places, rest) := match rest with
    | '.' :: rest => (rest.takeWhile Text.isAsciiDigit, rest.dropWhile Text.isAsciiDigit)
    | rest => ([], rest)
  !(whole.isEmpty && places.isEmpty) &&
    match rest with
    | [] => true
    | mark :: exponent =>
      (mark == 'e' || mark == 'E') && !(unsigned exponent).isEmpty &&
        (unsigned exponent).all Text.isAsciiDigit

/-- The words with a sign that count as fractions. -/
def signedWords : List String :=
  ["+", "-"].flatMap fun sign => ["inf", "NaN"].flatMap fun word =>
    ["", "f32", "f64"].map fun suffix => sign ++ word ++ suffix

/-- Moves over a fraction in digits. -/
def decimalFloat : Reader Unit := do
  let text := (← unread).takeWhile isFloatCharacter
  if text.isEmpty then fail .expectedFloat
  match strayUnderscore 0 false text with
  | some place =>
    advance place
    fail .floatUnderscore
  | none =>
    if !isFloat (text.filter (· != '_')) then fail .expectedFloat
    advance text.length
    if ← acceptWord "f32" then pure ()
    else
      let _ ← acceptWord "f64"

/-- Moves over a fraction. -/
def float : Reader Unit := do
  let rest ← unread
  match signedWords.find? fun word => sees word.toList rest with
  | some word => advance word.length
  | none => decimalFloat

/-- The widths of integers in bits. -/
def integerWidths : List Nat := [8, 16, 32, 64]

/-- The types of integers: a suffix, the least value negated, and the greatest value. -/
def integerTypes : List (String × Nat × Nat) :=
  integerWidths.map (fun width =>
    ("i" ++ toString width, Nat.pow 2 (width - 1), Nat.pow 2 (width - 1) - 1)) ++
  integerWidths.map fun width => ("u" ++ toString width, 0, Nat.pow 2 width - 1)

/-- What is wrong with the digits of an integer. -/
inductive DigitFault where
  | outOfBounds
  | invalid (place : Nat) (digit : Char)
  deriving DecidableEq, Repr

/-- Reads the digits of an integer up to a limit, one after the other, and says what is wrong
first. -/
def checkDigits (base limit place value : Nat) : List Char → Except DigitFault Unit
  | [] => .ok ()
  | digit :: rest =>
    if digit = '_' then checkDigits base limit (place + 1) value rest
    else if limit < value * base then .error .outOfBounds
    else
      let number := (hexadecimal? digit).getD 0
      if base ≤ number then .error (.invalid place digit)
      else if limit < value * base + number then .error .outOfBounds
      else checkDigits base limit (place + 1) (value * base + number) rest

/-- The base that a number starts with, and the length of that start. -/
def baseAndStart : List Char → Nat × Nat
  | '0' :: 'b' :: _ => (2, 2)
  | '0' :: 'o' :: _ => (8, 2)
  | '0' :: 'x' :: _ => (16, 2)
  | _ => (10, 0)

/-- The type whose suffix follows the digits of a number, if there is one. The letters `o` and `x`
of a base end the digits. -/
def integerType? (number : List Char) : Option (Nat × Nat) :=
  let rest := number.dropWhile isIntegerCharacter
  (integerTypes.find? fun entry => sees entry.1.toList rest).map Prod.snd

/-- Moves over an integer behind its sign. -/
def unsignedInteger (negative : Bool) : Reader Unit := do
  let type := integerType? (← unread)
  let (least, greatest) := type.getD (Nat.pow 2 63, Nat.pow 2 64 - 1)
  let (base, start) := baseAndStart (← unread)
  if start > 0 then advance start
  let digits := (← unread).takeWhile isIntegerCharacter
  match digits with
  | [] => fail .expectedInteger
  | '_' :: _ => fail .leadingUnderscore
  | _ =>
    let result := checkDigits base (if negative then least else greatest) 0 0 digits
    match result with
    | .error (.invalid place _) => advance place
    | _ => advance digits.length
    if type.isSome then
      let _ ← anyWord
    match result with
    | .ok () => pure ()
    | .error .outOfBounds => fail .integerOutOfBounds
    | .error (.invalid _ digit) => fail (.invalidDigit digit base)

/-- Moves over a byte between single quotes, behind its start. -/
def byte : Reader Unit := do
  let value ← step
  if value = '\\' then
    let _ ← escape .byte
  else if value.toNat ≥ 128 then fail .expectedByte
  expect '\'' .expectedByte

/-- Moves over an integer. -/
def integer : Reader Unit := do
  match ← peek with
  | none => fail .endOfText
  | some '+' =>
    let _ ← step
    unsignedInteger false
  | some '-' =>
    let _ ← step
    unsignedInteger true
  | some _ => if ← accept ['b', '\''] then byte else unsignedInteger false

/-- Moves over a number. What is no integer may still be a fraction that reaches as far as the
integer was read; otherwise the failure of the integer counts, and starts where the number does if
the fraction was moved over. -/
def number : Reader Unit := do
  if seesFloat (← unread) then float
  else fun cursor =>
    match integer cursor with
    | .ok result => .ok result
    | .error failure =>
      let whole := { failure with afterStart := cursor.unread.length }
      match float cursor with
      | .ok ((), after) =>
        if after.unread.length ≤ failure.afterEnd then .ok ((), after) else .error whole
      | .error ⟨.floatUnderscore, _, _⟩ => .error whole
      | .error _ => .error failure

end QuizFeed.Ron.Reader
