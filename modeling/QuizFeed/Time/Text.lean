import QuizFeed.Text.Blank
import QuizFeed.Time.Instant

/-!
# Instants as text

`Instant.display` is how messages give an instant, and `Instant.write` how files do. `Instant.read`
accepts the latter and much besides: blanks between the parts, fewer digits, a space instead of
`T`, and offsets from universal time.
-/

namespace QuizFeed.Time

/-- A number with zeros before it, up to a width. -/
def padded (width number : Nat) : List Char :=
  let digits := Nat.toDigits 10 number
  List.replicate (width - digits.length) '0' ++ digits

/-- A year: four digits, or a sign and at least four digits outside the years 0 to 9999. -/
def writeYear (year : Int) : List Char :=
  if 0 ≤ year ∧ year ≤ 9999 then padded 4 year.toNat
  else (if year < 0 then '-' else '+') :: padded 4 year.natAbs

/-- A date with hyphens. -/
def writeDate (date : Date) : List Char :=
  writeYear date.year ++ '-' :: padded 2 date.month ++ '-' :: padded 2 date.day

/-- A fraction of a second in thousandths, millionths or billionths, if it is not zero. -/
def writeFraction (nanosecond : Nat) : List Char :=
  if nanosecond = 0 then []
  else if nanosecond % 1000000 = 0 then '.' :: padded 3 (nanosecond / 1000000)
  else if nanosecond % 1000 = 0 then '.' :: padded 6 (nanosecond / 1000)
  else '.' :: padded 9 nanosecond

/-- The time of a day with colons; a leap second is the second 60. -/
def writeTime (secondOfDay nanosecond : Nat) : List Char :=
  let leap := nanosecond / secondNanoseconds
  padded 2 (secondOfDay / 3600) ++ ':' :: padded 2 (secondOfDay / 60 % 60) ++
    ':' :: padded 2 (secondOfDay % 60 + leap) ++ writeFraction (nanosecond % secondNanoseconds)

namespace Instant

/-- An instant as messages show it. -/
def display (instant : Instant) : String :=
  String.ofList (writeDate instant.date ++ ' ' ::
    writeTime instant.secondOfDay instant.nanosecond ++ " UTC".toList)

/-- An instant as files hold it. -/
def write (instant : Instant) : String :=
  String.ofList (writeDate instant.date ++ 'T' ::
    writeTime instant.secondOfDay instant.nanosecond ++ ['Z'])

end Instant

/-- Why a text is not an instant. -/
inductive Failure where
  | tooShort
  | invalid
  | outOfRange
  | tooLong
  | impossible
  deriving DecidableEq, Repr

/-- The wording of a failure. -/
def Failure.message : Failure → String
  | tooShort => "premature end of input"
  | invalid => "input contains invalid characters"
  | outOfRange => "input is out of range"
  | tooLong => "trailing input"
  | impossible => "no possible date and time matching input"

/-- The text behind any blanks. -/
def skipBlanks (text : List Char) : List Char :=
  text.dropWhile Text.isBlank

/-- Whether a character is a decimal digit. -/
def isDigit (character : Char) : Bool :=
  48 ≤ character.toNat && character.toNat ≤ 57

/-- The number that digits denote. -/
def numberOf (digits : List Char) : Nat :=
  digits.foldl (fun total digit => total * 10 + (digit.toNat - 48)) 0

/-- The greatest number that is read at all. -/
def greatestNumber : Nat := Nat.pow 2 63 - 1

/-- A number of one digit or more, up to a limit if there is one. -/
def readNumber (limit : Option Nat) (text : List Char) : Except Failure (Nat × List Char) :=
  let run := text.takeWhile isDigit
  let digits := match limit with
    | some limit => run.take limit
    | none => run
  match text, digits with
  | [], _ => .error .tooShort
  | _, [] => .error .invalid
  | _, digits =>
    if numberOf digits > greatestNumber then .error .outOfRange
    else .ok (numberOf digits, text.drop digits.length)

/-- A year, of any length behind a sign and of at most four digits without one. -/
def readYear (text : List Char) : Except Failure (Int × List Char) := do
  let (year, rest) ← match skipBlanks text with
    | '-' :: rest => (readNumber none rest).map fun (year, rest) => (-(year : Int), rest)
    | '+' :: rest => (readNumber none rest).map fun (year, rest) => ((year : Int), rest)
    | rest => (readNumber (some 4) rest).map fun (year, rest) => ((year : Int), rest)
  if year < -2147483648 ∨ 2147483647 < year then .error .outOfRange else .ok (year, rest)

/-- A number of at most two digits within bounds, behind any blanks. -/
def readField (least greatest : Nat) (text : List Char) : Except Failure (Nat × List Char) := do
  let (number, rest) ← readNumber (some 2) (skipBlanks text)
  if number < least ∨ greatest < number then .error .outOfRange else .ok (number, rest)

/-- The text behind a mark, which may follow blanks. -/
def readMark (mark : Char) (text : List Char) : Except Failure (List Char) :=
  match skipBlanks text with
  | [] => .error .tooShort
  | character :: rest => if character = mark then .ok rest else .error .invalid

/-- A date. -/
def readDate (text : List Char) : Except Failure (Date × List Char) := do
  let (year, rest) ← readYear text
  let (month, rest) ← readField 1 12 (← readMark '-' rest)
  let (day, rest) ← readField 1 31 (← readMark '-' rest)
  pure (⟨year, month, day⟩, rest)

/-- The nanoseconds behind a point, of which digits after the ninth do not count. -/
def readFraction : List Char → Except Failure (Nat × List Char)
  | '.' :: rest => do
    let (number, after) ← readNumber (some 9) rest
    let places := rest.length - after.length
    pure (number * Nat.pow 10 (9 - places), after.dropWhile isDigit)
  | text => pure (0, text)

/-- The time of a day: its second, and nanoseconds that make up a leap second if it is one. -/
def readTime (text : List Char) : Except Failure ((Nat × Nat) × List Char) := do
  let (hour, rest) ← readField 0 23 text
  let (minute, rest) ← readField 0 59 (← readMark ':' rest)
  let (second, rest) ← readField 0 60 (← readMark ':' rest)
  let (nanosecond, rest) ← readFraction rest
  let leap := if second = 60 then secondNanoseconds else 0
  pure ((hour * 3600 + minute * 60 + min second 59, nanosecond + leap), rest)

/-- Two digits at the start of a text, of which the first is below a bound. -/
def readPair (bound : Nat) : List Char → Except Failure (Nat × List Char)
  | first :: second :: rest =>
    if isDigit first ∧ isDigit second then
      if first.toNat - 48 < bound then .ok (numberOf [first, second], rest)
      else .error .outOfRange
    else .error .invalid
  | [single] => .error (if single.toNat < 0x80 then .tooShort else .invalid)
  | [] => .error .tooShort

/-- The offset from universal time in seconds. -/
def readOffset (text : List Char) : Except Failure (Int × List Char) := do
  match text.take 3 with
  | [u, t, c] =>
    if "uU".toList.contains u && "tT".toList.contains t && "cC".toList.contains c then
      return (0, text.drop 3)
  | _ => pure ()
  match text with
  | [] => throw .tooShort
  | sign :: rest =>
    if sign = 'Z' ∨ sign = 'z' then return (0, rest)
    if sign ≠ '+' ∧ sign ≠ '-' ∧ sign.toNat ≠ 0x2212 then throw .invalid
    let (hours, rest) ← readPair 10 rest
    let separated := rest.dropWhile fun character => character == ':' || Text.isBlank character
    let (minutes, rest) ← readPair 6 separated
    let offset : Int := hours * 3600 + minutes * 60
    pure (if sign = '+' then offset else -offset, rest)

/-- The text behind the mark between date and time. -/
def readSeparator : List Char → Except Failure (List Char)
  | [] => .error .tooShort
  | mark :: rest =>
    if mark = 'T' ∨ mark = 't' ∨ mark = ' ' then .ok rest else .error .invalid

/-- Reads an instant. -/
def Instant.read (text : String) : Except Failure Instant := do
  let (date, rest) ← readDate text.toList
  let ((second, nanosecond), rest) ← readTime (← readSeparator rest)
  let (offset, rest) ← readOffset (skipBlanks rest)
  if (skipBlanks rest) ≠ [] then throw .tooLong
  if !date.exists? ∨ date.year < firstYear ∨ lastYear < date.year then throw .outOfRange
  if offset.natAbs ≥ daySeconds.toNat then throw .outOfRange
  match Instant.of? ((date.toDays - epochDays) * daySeconds + second - offset) nanosecond with
  | some instant => pure instant
  | none => throw .impossible

end QuizFeed.Time
