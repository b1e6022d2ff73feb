import QuizFeed.Json.Failure
import QuizFeed.Json.Value

/-!
# Reading JSON numbers

A number is gathered as a significand below `2 ^ 64` and a decimal exponent. Digits that no longer
fit raise the exponent before the decimal point and are dropped after it. An integer that fits
stays exact; all else becomes the double of the significand, multiplied or divided by a power of
ten that is itself rounded to a double.
-/

namespace QuizFeed.Json

open QuizFeed.Decimal

/-- A failure at the place where the unread bytes start. -/
def failHere {α : Type} (cause : Cause) (unread : List UInt8) : Except Failure α :=
  .error ⟨cause, unread.length⟩

/-- A failure at the first unread byte, or at the end of the text. -/
def failNext {α : Type} (cause : Cause) (unread : List UInt8) : Except Failure α :=
  .error ⟨cause, unread.length - 1⟩

/-- The value of a digit byte. -/
def digit? (byte : UInt8) : Option Nat :=
  let code := byte.toNat
  if 48 ≤ code ∧ code ≤ 57 then some (code - 48) else none

/-- The bytes after a run of digits. -/
def skipDigits (unread : List UInt8) : List UInt8 :=
  unread.dropWhile fun byte => (digit? byte).isSome

/-- Significands stay below this bound. -/
def significandBound : Nat := Nat.pow 2 64

/-- Decimal exponents written in a text stay below this bound. -/
def exponentBound : Nat := Nat.pow 2 31

/-- The double nearest to a power of ten. -/
def powerOfTen (exponent : Nat) : Option Binary64 :=
  Binary64.ofNat (Nat.pow 10 exponent)

/-- The greatest power of ten below the largest double. -/
def greatestPower : Nat := 308

/-- Divides a double by `10 ^ greatestPower` so many times, or until nothing is left of it. -/
def divideRepeatedly (double : Binary64) : Nat → Option Binary64
  | 0 => some double
  | steps + 1 =>
    if double.isZero then some double
    else ((powerOfTen greatestPower).bind double.div).bind fun quotient =>
      divideRepeatedly quotient steps

/-- Divides a double by `10 ^ exponent`, in steps of at most `greatestPower` places. -/
def divideByPower (double : Binary64) (exponent : Nat) : Option Binary64 :=
  let steps := (exponent - 1) / greatestPower
  (divideRepeatedly double steps).bind fun quotient =>
    if quotient.isZero then some quotient
    else (powerOfTen (exponent - steps * greatestPower)).bind quotient.div

/-- The double of a significand times a power of ten. -/
def doubleOfParts (negative : Bool) (significand : Nat) (exponent : Int) : Option Binary64 := do
  let double ← Binary64.ofNat significand
  let magnitude ←
    if 0 ≤ exponent then
      if exponent.toNat ≤ greatestPower then (powerOfTen exponent.toNat).bind double.mul
      else if double.isZero then some double
      else none
    else divideByPower double exponent.natAbs
  pure { magnitude with negative := negative }

/-- Ends a number as a double, or fails as out of range. -/
def finishDouble (negative : Bool) (significand : Nat) (exponent : Int) (unread : List UInt8) :
    Except Failure (Number × List UInt8) :=
  match doubleOfParts negative significand exponent with
  | some double => .ok (.real double, unread)
  | none => failHere .numberOutOfRange unread

/-- Further digits of a written exponent; `none` when it reaches the bound, with the bytes after
the digit that did so. -/
def exponentDigits (exponent : Nat) : List UInt8 → Option Nat × List UInt8
  | [] => (some exponent, [])
  | byte :: rest =>
    match digit? byte with
    | none => (some exponent, byte :: rest)
    | some digit =>
      if exponent * 10 + digit < exponentBound then exponentDigits (exponent * 10 + digit) rest
      else (none, rest)

/-- The part of a number after `e` or `E`. -/
def readExponent (negative : Bool) (significand : Nat) (start : Int) (unread : List UInt8) :
    Except Failure (Number × List UInt8) :=
  let (lowers, unread) := match unread with
    | 0x2B :: rest => (false, rest)
    | 0x2D :: rest => (true, rest)
    | _ => (false, unread)
  match unread with
  | [] => failHere .endInValue unread
  | byte :: rest =>
    match digit? byte with
    | none => failHere .invalidNumber rest
    | some digit =>
      match exponentDigits digit rest with
      | (some exponent, rest) =>
        finishDouble negative significand (if lowers then start - exponent else start + exponent)
          rest
      | (none, rest) =>
        if significand ≠ 0 ∧ ¬ lowers then failHere .numberOutOfRange rest
        else .ok (.real (.zero negative), skipDigits rest)

/-- Continues with a written exponent, or ends the number. -/
def readExponent? (negative : Bool) (significand : Nat) (exponent : Int) :
    List UInt8 → Except Failure (Number × List UInt8)
  | 0x65 :: rest => readExponent negative significand exponent rest
  | 0x45 :: rest => readExponent negative significand exponent rest
  | unread => finishDouble negative significand exponent unread

/-- Digits after the decimal point: the significand, the number of places read, and the rest. -/
def fractionDigits (significand places : Nat) : List UInt8 → Nat × Nat × Bool × List UInt8
  | [] => (significand, places, false, [])
  | byte :: rest =>
    match digit? byte with
    | none => (significand, places, false, byte :: rest)
    | some digit =>
      if significand * 10 + digit < significandBound then
        fractionDigits (significand * 10 + digit) (places + 1) rest
      else (significand, places, true, byte :: rest)

/-- The part of a number after its decimal point. -/
def readFraction (negative : Bool) (significand : Nat) (exponent : Int) (unread : List UInt8) :
    Except Failure (Number × List UInt8) :=
  let (significand, places, full, unread) := fractionDigits significand 0 unread
  if full then readExponent? negative significand (exponent - places) (skipDigits unread)
  else if places = 0 then
    match unread with
    | [] => failNext .endInValue unread
    | _ :: _ => failNext .invalidNumber unread
  else readExponent? negative significand (exponent - places) unread

/-- The part of a number after its integer digits, where `exponent` digits were dropped. -/
def readAfterInteger (negative : Bool) (significand : Nat) (exponent : Nat) :
    List UInt8 → Except Failure (Number × List UInt8)
  | 0x2E :: rest => readFraction negative significand exponent rest
  | unread => readExponent? negative significand exponent unread

/-- Ends a number that has neither fraction nor exponent. -/
def finishInteger (negative : Bool) (significand : Nat) (unread : List UInt8) :
    Except Failure (Number × List UInt8) :=
  if ¬ negative then .ok (.integer significand, unread)
  else if significand = 0 ∨ significand > Nat.pow 2 63 then
    finishDouble true significand 0 unread
  else .ok (.integer (-significand), unread)

/-- Continues an integer that still fits. -/
def readShort (negative : Bool) (significand : Nat) :
    List UInt8 → Except Failure (Number × List UInt8)
  | 0x2E :: rest => readFraction negative significand 0 rest
  | 0x65 :: rest => readExponent negative significand 0 rest
  | 0x45 :: rest => readExponent negative significand 0 rest
  | unread => finishInteger negative significand unread

/-- Further integer digits: the significand, whether one did not fit, and the rest. -/
def integerDigits (significand : Nat) : List UInt8 → Nat × Bool × List UInt8
  | [] => (significand, false, [])
  | byte :: rest =>
    match digit? byte with
    | none => (significand, false, byte :: rest)
    | some digit =>
      if significand * 10 + digit < significandBound then
        integerDigits (significand * 10 + digit) rest
      else (significand, true, byte :: rest)

/-- A number after its sign. -/
def readNumber (negative : Bool) :
    List UInt8 → Except Failure (Number × List UInt8)
  | [] => failHere .endInValue []
  | 0x30 :: rest =>
    match rest with
    | [] => readShort negative 0 rest
    | byte :: _ =>
      if (digit? byte).isSome then failNext .invalidNumber rest else readShort negative 0 rest
  | byte :: rest =>
    match digit? byte with
    | none => failHere .invalidNumber rest
    | some digit =>
      match integerDigits digit rest with
      | (significand, false, rest) => readShort negative significand rest
      | (significand, true, rest) =>
        let dropped := rest.length - (skipDigits rest).length
        readAfterInteger negative significand dropped (skipDigits rest)

end QuizFeed.Json
