import QuizFeed.Text.Identifier
import QuizFeed.Text.Quoted

/-!
# Why a text is not the RON document that was asked for

A failure is a cause and the two places between which it was found, each given by the number of
characters that follow it. `Failure.message` turns them into lines and columns.
-/

namespace QuizFeed.Ron

/-- Whether a character may start a plain word. -/
def startsWord (character : Char) : Bool :=
  character == '_' || Text.isIdentifierStart character

/-- Whether a character may occur in a raw word. -/
def isRawCharacter (character : Char) : Bool :=
  ['.', '+', '-'].contains character || Text.isIdentifierContinue character

/-- What is wrong at a place of a text. -/
inductive Cause where
  | endOfText
  | expectedAttribute
  | expectedAttributeEnd
  | unknownExtension (name : String)
  | expectedIdentifier
  | rawIdentifier (name : String)
  | expectedComma
  | expectedColon
  | expectedRecord (name : String)
  | otherRecord (expected found : String)
  | expectedRecordName (name : String)
  | expectedOpening
  | expectedClosing
  | expectedMap
  | expectedMapEnd
  | expectedList
  | expectedListEnd
  | expectedString
  | expectedStringEnd
  | expectedByteString
  | expectedByteStringEnd
  | expectedByte
  | expectedCharacter
  | expectedBoolean
  | expectedOption
  | expectedInteger
  | expectedFloat
  | integerOutOfBounds
  | leadingUnderscore
  | floatUnderscore
  | invalidDigit (digit : Char) (base : Nat)
  | unknownEscape
  | escapeNotHexadecimal
  | escapeWithoutOpening
  | escapeWithoutDigits
  | escapeWithoutClosing
  | escapeNotCharacter
  | escapeNotBytes
  | escapeNotByte
  | missingField (field record : String)
  | duplicateField (field record : String)
  | unknownVariant (found enumeration first second : String)
  | rejected (message : String)
  | unexpectedCharacter (character : Char)
  | unclosedComment
  | tooDeep
  | trailingCharacters
  deriving DecidableEq, Repr

/-- A name as messages show it. -/
def showName (name : String) : String :=
  match name.toList with
  | [] => "\"\"_[invalid identifier]"
  | first :: rest =>
    if !(first :: rest).all isRawCharacter then Text.quote name ++ "_[invalid identifier]"
    else if startsWord first && rest.all Text.isIdentifierContinue then "`" ++ name ++ "`"
    else "`r#" ++ name ++ "`"

/-- A character between single quotes, with escapes. -/
def showCharacter (character : Char) : String :=
  String.ofList ('\'' :: (if character = '"' then ['"'] else Text.escape character) ++ ['\''])

/-- The wording of a cause. -/
def Cause.message : Cause → String
  | endOfText => "Unexpected end of RON"
  | expectedAttribute => "Expected an `#![enable(...)]` attribute"
  | expectedAttributeEnd => "Expected closing `)]` after the enable attribute"
  | unknownExtension name => "No RON extension named " ++ showName name
  | expectedIdentifier => "Expected identifier"
  | rawIdentifier name =>
    "Found invalid std identifier " ++ Text.quote name ++ ", try the raw identifier `r#" ++ name ++
      "` instead"
  | expectedComma => "Expected comma"
  | expectedColon => "Expected colon"
  | expectedRecord name => "Expected opening `(` for struct " ++ showName name
  | otherRecord expected found =>
    "Expected struct " ++ showName expected ++ " but found " ++ showName found
  | expectedRecordName name =>
    "Expected the explicit struct name " ++ showName name ++ ", but none was found"
  | expectedOpening => "Expected opening `(`"
  | expectedClosing => "Expected closing `)`"
  | expectedMap => "Expected opening `\x7b`"
  | expectedMapEnd => "Expected closing `\x7d`"
  | expectedList => "Expected opening `[`"
  | expectedListEnd => "Expected closing `]`"
  | expectedString => "Expected string"
  | expectedStringEnd => "Expected end of string"
  | expectedByteString => "Expected byte string"
  | expectedByteStringEnd => "Expected end of byte string"
  | expectedByte => "Expected byte literal"
  | expectedCharacter => "Expected char"
  | expectedBoolean => "Expected boolean"
  | expectedOption => "Expected option"
  | expectedInteger => "Expected integer"
  | expectedFloat => "Expected float"
  | integerOutOfBounds => "Integer is out of bounds"
  | leadingUnderscore => "Unexpected leading underscore in a number"
  | floatUnderscore => "Unexpected underscore in float"
  | invalidDigit digit base =>
    "Invalid digit " ++ showCharacter digit ++ " for base " ++ toString base ++ " integers"
  | unknownEscape => "Unknown escape character"
  | escapeNotHexadecimal => "Non-hex digit found"
  | escapeWithoutOpening => "Missing \x7b in Unicode escape"
  | escapeWithoutDigits => "Expected 1-6 digits, got 0 digits in Unicode escape"
  | escapeWithoutClosing => "No \x7d at the end of Unicode escape"
  | escapeNotCharacter => "Not a valid Unicode-escaped character"
  | escapeNotBytes => "Not a valid byte-escaped Unicode character"
  | escapeNotByte => "Unexpected Unicode escape in byte literal"
  | missingField field record =>
    "Unexpected missing field named " ++ showName field ++ " in " ++ showName record
  | duplicateField field record =>
    "Unexpected duplicate field named " ++ showName field ++ " in " ++ showName record
  | unknownVariant found enumeration first second =>
    "Unexpected variant named " ++ showName found ++ " in enum " ++ showName enumeration ++
      ", expected either " ++ showName first ++ " or " ++ showName second ++ " instead"
  | rejected message => message
  | unexpectedCharacter character => "Unexpected char " ++ showCharacter character
  | unclosedComment => "Unclosed block comment"
  | tooDeep =>
    "Exceeded recursion limit, try increasing `ron::Options::recursion_limit` and using " ++
      "`serde_stacker` to protect against a stack overflow"
  | trailingCharacters => "Non-whitespace trailing characters"

/-- A cause with the number of characters that follow the start and the end of the place where it
was found. -/
structure Failure where
  cause : Cause
  afterStart : Nat
  afterEnd : Nat
  deriving DecidableEq, Repr

/-- The line and the column behind some characters, both counted from one. -/
def position (consumed : List Char) : String :=
  let line := consumed.count '\n' + 1
  let column := (consumed.reverse.takeWhile (· != '\n')).length + 1
  toString line ++ ":" ++ toString column

/-- The text of a failure in a given input. -/
def Failure.message (failure : Failure) (input : List Char) : String :=
  let start := position (input.take (input.length - failure.afterStart))
  let finish := position (input.take (input.length - failure.afterEnd))
  (if start = finish then start else start ++ "-" ++ finish) ++ ": " ++ failure.cause.message

end QuizFeed.Ron
