import QuizFeed.Json.Number

/-!
# Reading JSON strings

Strings are read as bytes: escapes add the UTF-8 form of their character, all other bytes stand
for themselves, and the whole has to be UTF-8 when the closing quote is reached.
-/

namespace QuizFeed.Json

/-- The value of a hexadecimal digit byte. -/
def hexDigit? (byte : UInt8) : Option Nat :=
  let code := byte.toNat
  if 48 ≤ code ∧ code ≤ 57 then some (code - 48)
  else if 97 ≤ code ∧ code ≤ 102 then some (code - 87)
  else if 65 ≤ code ∧ code ≤ 70 then some (code - 55)
  else none

/-- Four hexadecimal digits. -/
def readHex : List UInt8 → Except Failure (Nat × List UInt8)
  | a :: b :: c :: d :: rest =>
    match hexDigit? a, hexDigit? b, hexDigit? c, hexDigit? d with
    | some a, some b, some c, some d => .ok (((a * 16 + b) * 16 + c) * 16 + d, rest)
    | _, _, _, _ => failHere .invalidEscape rest
  | _ => failHere .endInString []

/-- The UTF-8 form of a scalar value. -/
def scalarBytes (code : Nat) : List UInt8 :=
  (String.singleton (Char.ofNat code)).toByteArray.data.toList

/-- The second half of a surrogate pair. -/
def readTrailingSurrogate (leading : Nat) : List UInt8 → Except Failure (List UInt8 × List UInt8)
  | [] => failHere .endInString []
  | 0x5C :: rest =>
    match rest with
    | [] => failHere .endInString []
    | 0x75 :: rest => do
      let (trailing, rest) ← readHex rest
      if 0xDC00 ≤ trailing ∧ trailing ≤ 0xDFFF then
        .ok (scalarBytes ((leading - 0xD800) * 1024 + (trailing - 0xDC00) + 0x10000), rest)
      else failHere .loneSurrogate rest
    | _ :: rest => failHere .truncatedSurrogatePair rest
  | _ :: rest => failHere .truncatedSurrogatePair rest

/-- The bytes that an escape stands for, after its backslash. -/
def readEscape : List UInt8 → Except Failure (List UInt8 × List UInt8)
  | [] => failHere .endInString []
  | 0x22 :: rest => .ok ([0x22], rest)
  | 0x5C :: rest => .ok ([0x5C], rest)
  | 0x2F :: rest => .ok ([0x2F], rest)
  | 0x62 :: rest => .ok ([0x08], rest)
  | 0x66 :: rest => .ok ([0x0C], rest)
  | 0x6E :: rest => .ok ([0x0A], rest)
  | 0x72 :: rest => .ok ([0x0D], rest)
  | 0x74 :: rest => .ok ([0x09], rest)
  | 0x75 :: rest => do
    let (code, rest) ← readHex rest
    if 0xDC00 ≤ code ∧ code ≤ 0xDFFF then failHere .loneSurrogate rest
    else if 0xD800 ≤ code ∧ code ≤ 0xDBFF then readTrailingSurrogate code rest
    else .ok (scalarBytes code, rest)
  | _ :: rest => failHere .invalidEscape rest

/-- The bytes of a string up to its closing quote, with the quote and the rest. -/
def readStringBytes (fuel : Nat) (gathered : Array UInt8) (unread : List UInt8) :
    Except Failure (Array UInt8 × List UInt8) :=
  match fuel, unread with
  | 0, _ => failHere .endInString []
  | _, [] => failHere .endInString []
  | fuel + 1, byte :: rest =>
    if byte = 0x22 then .ok (gathered, byte :: rest)
    else if byte = 0x5C then
      match readEscape rest with
      | .error failure => .error failure
      | .ok (escaped, rest) => readStringBytes fuel (gathered ++ escaped.toArray) rest
    else if byte.toNat < 0x20 then failHere .controlCharacter rest
    else readStringBytes fuel (gathered.push byte) rest

/-- The number of bytes from a position on that are the UTF-8 form of at most `fuel` characters. -/
def textLength (fuel position : Nat) (input : ByteArray) : Nat :=
  match fuel, input.utf8DecodeChar? position with
  | fuel + 1, some character =>
    character.utf8Size + textLength fuel (position + character.utf8Size) input
  | _, _ => 0

/-- A string after its opening quote. A byte that is not part of a character is reported where it
stands, although only the closing quote brings it to light. -/
def readString (unread : List UInt8) : Except Failure (String × List UInt8) := do
  let (gathered, quoted) ← readStringBytes (unread.length + 1) #[] unread
  match String.fromUTF8? ⟨gathered⟩ with
  | none => failNext .invalidText (unread.drop (textLength unread.length 0 ⟨unread.toArray⟩))
  | some text => .ok (text, quoted.tail)

end QuizFeed.Json
