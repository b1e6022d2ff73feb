/-!
# Why a text is not JSON

A failure is a cause and the number of bytes that were left unread where it was found.
`Failure.message` turns that number into a line and a column, both counted in bytes.
-/

namespace QuizFeed.Json

/-- What is wrong at a place of a text. -/
inductive Cause where
  | endInList
  | endInObject
  | endInString
  | endInValue
  | expectedColon
  | expectedListCommaOrEnd
  | expectedObjectCommaOrEnd
  | expectedWord
  | expectedValue
  | invalidEscape
  | invalidNumber
  | numberOutOfRange
  | invalidText
  | controlCharacter
  | keyNotText
  | loneSurrogate
  | trailingComma
  | trailingCharacters
  | truncatedSurrogatePair
  | tooDeep
  deriving DecidableEq, Repr

/-- The wording of a cause. -/
def Cause.message : Cause → String
  | endInList => "EOF while parsing a list"
  | endInObject => "EOF while parsing an object"
  | endInString => "EOF while parsing a string"
  | endInValue => "EOF while parsing a value"
  | expectedColon => "expected `:`"
  | expectedListCommaOrEnd => "expected `,` or `]`"
  | expectedObjectCommaOrEnd => "expected `,` or `\x7d`"
  | expectedWord => "expected ident"
  | expectedValue => "expected value"
  | invalidEscape => "invalid escape"
  | invalidNumber => "invalid number"
  | numberOutOfRange => "number out of range"
  | invalidText => "invalid unicode code point"
  | controlCharacter =>
    "control character (\\u0000-\\u001F) found while parsing a string"
  | keyNotText => "key must be a string"
  | loneSurrogate => "lone leading surrogate in hex escape"
  | trailingComma => "trailing comma"
  | trailingCharacters => "trailing characters"
  | truncatedSurrogatePair => "unexpected end of hex escape"
  | tooDeep => "recursion limit exceeded"

/-- A cause, and how many bytes were unread at the place where it was found. -/
structure Failure where
  cause : Cause
  unread : Nat
  deriving DecidableEq, Repr

/-- The line and the column that follow after some bytes. -/
def lineAndColumn (consumed : List UInt8) : Nat × Nat :=
  let newline : UInt8 := 10
  (consumed.count newline + 1, (consumed.reverse.takeWhile (· != newline)).length)

/-- The text of a failure in a given input. -/
def Failure.message (failure : Failure) (input : List UInt8) : String :=
  let (line, column) := lineAndColumn (input.take (input.length - failure.unread))
  s!"{failure.cause.message} at line {line} column {column}"

end QuizFeed.Json
