import QuizFeed.Url.Domain.Name
import QuizFeed.Url.Percent

/-!
# Numeric hosts

Addresses of four bytes, which may be written with fewer parts and in octal or hexadecimal, and
addresses of eight 16-bit pieces, of which one run of zeros may be left out.
-/

namespace QuizFeed.Url.Address

/-- One part of a four-byte address: its base and its digits. -/
def radixAndDigits : List Char → Nat × List Char
  | '0' :: 'x' :: digits => (16, digits)
  | '0' :: 'X' :: digits => (16, digits)
  | '0' :: digit :: digits => (8, digit :: digits)
  | digits => (10, digits)

/-- The number that digits of some base denote; no digits denote zero. -/
def number? (radix : Nat) (digits : List Char) : Option Nat :=
  digits.foldl (fun total digit => do
    let total ← total
    let value ← Percent.hexValue? digit
    if value < radix then some (total * radix + value) else none) (some 0)

/-- The value of one part of a four-byte address. -/
def part? (part : List Char) : Option Nat :=
  if part.isEmpty then none
  else
    let (radix, digits) := radixAndDigits part
    number? radix digits

/-- The parts of a host name, without an empty last one. -/
def parts (name : List Char) : List (List Char) :=
  let all := Domain.splitAt '.' name
  if all.length > 1 ∧ all.getLast? = some [] then all.dropLast else all

/-- Whether a host name ends in a number, so that it can only be a four-byte address. -/
def endsInNumber (name : List Char) : Bool :=
  match (parts name).getLast? with
  | none => false
  | some last =>
    (!last.isEmpty && last.all fun digit => 48 ≤ digit.toNat && digit.toNat ≤ 57) ||
      (part? last).isSome

/-- Reads a four-byte address: the last part fills all bytes that the others leave. -/
def readIpv4 (name : List Char) : Option Nat := do
  let numbers ← (parts name).mapM part?
  let last ← numbers.getLast?
  let leading := numbers.dropLast
  let scale := Nat.pow 256 (4 - leading.length)
  if leading.length > 3 ∨ leading.any (· > 255) ∨ last ≥ scale then none
  else
    some (leading.foldl (fun total byte => total * 256 + byte) 0 * scale + last)

/-- The four bytes of an address with dots between them. -/
def writeIpv4 (address : Nat) : List Char :=
  let byte (place : Nat) := Nat.toDigits 10 (address / Nat.pow 256 place % 256)
  Domain.joinWith '.' [byte 3, byte 2, byte 1, byte 0]

/-- Up to `limit` hexadecimal digits: their value, how many there are, and the rest. -/
def hexDigits (limit value count : Nat) : List Char → Nat × Nat × List Char
  | [] => (value, count, [])
  | digit :: rest =>
    match limit, Percent.hexValue? digit with
    | limit + 1, some next => hexDigits limit (value * 16 + next) (count + 1) rest
    | _, _ => (value, count, digit :: rest)

/-- The decimal byte at the start of a text, written without a leading zero. -/
def decimalByte? (text : List Char) : Option Nat :=
  let isDigit (c : Char) := 48 ≤ c.toNat && c.toNat ≤ 57
  let value := text.foldl (fun total digit => total * 10 + (digit.toNat - 48)) 0
  if text.isEmpty ∨ ¬ text.all isDigit ∨ (text.length > 1 ∧ text.head? = some '0') ∨ value > 255
  then none
  else some value

/-- The two pieces of an address of four decimal bytes. -/
def embeddedIpv4? (text : List Char) : Option (List Nat) := do
  match ← (Domain.splitAt '.' text).mapM decimalByte? with
  | [a, b, c, d] => some [a * 256 + b, c * 256 + d]
  | _ => none

/-- Reads pieces behind those already gathered in reverse; `gap` is the number of pieces up to and
including the place where zeros were left out. -/
def readPieces (fuel : Nat) (gathered : List Nat) (gap : Option Nat) (unread : List Char) :
    Option (List Nat × Option Nat) :=
  match fuel, unread with
  | _, [] => some (gathered, gap)
  | 0, _ => none
  | fuel + 1, character :: rest =>
    if gathered.length ≥ 8 then none
    else if character = ':' then
      if gap.isSome then none
      else readPieces fuel (0 :: gathered) (some (gathered.length + 1)) rest
    else
      match hexDigits 4 0 0 unread with
      | (value, _, []) => some (value :: gathered, gap)
      | (value, count, next :: after) =>
        if next = '.' then
          if count = 0 ∨ gathered.length > 6 then none
          else (embeddedIpv4? unread).map fun pieces => (pieces.reverse ++ gathered, gap)
        else if next = ':' ∧ ¬ after.isEmpty then readPieces fuel (value :: gathered) gap after
        else none

/-- Reads an address of eight pieces. -/
def readIpv6 (text : List Char) : Option (List Nat) := do
  if text.length < 2 then none
  let (gathered, gap) ← match text with
    | ':' :: ':' :: rest => readPieces (text.length) [0] (some 1) rest
    | ':' :: _ => none
    | _ => readPieces (text.length) [] none text
  let pieces := gathered.reverse
  match gap with
  | none => if pieces.length = 8 then some pieces else none
  | some gap =>
    if pieces.length > 8 then none
    else some (pieces.take gap ++ List.replicate (8 - pieces.length) 0 ++ pieces.drop gap)

/-- The start and the length of the first of the longest runs of zeros. -/
def longestZeros (pieces : List Nat) : Nat × Nat :=
  let runs := (List.range pieces.length).map fun start =>
    (start, ((pieces.drop start).takeWhile (· == 0)).length)
  runs.foldl (fun best run => if run.2 > best.2 then run else best) (0, 0)

/-- An address of eight pieces, its longest run of two or more zeros left out. -/
def writeIpv6 (pieces : List Nat) : List Char :=
  let write (some : List Nat) := Domain.joinWith ':' (some.map (Nat.toDigits 16))
  let (start, length) := longestZeros pieces
  if length < 2 then write pieces
  else write (pieces.take start) ++ [':', ':'] ++ write (pieces.drop (start + length))

end QuizFeed.Url.Address
