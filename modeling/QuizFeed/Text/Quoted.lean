import QuizFeed.Text.Extending
import QuizFeed.Text.Order
import QuizFeed.Text.Printable

/-!
# Quoted text

Quotes, backslashes, common controls, and characters that cannot be seen on their own are written
as escapes; every other character stands for itself.
-/

namespace QuizFeed.Text

/-- The lower-case hexadecimal digits of a number. -/
def hexadecimal (number : Nat) : List Char :=
  Nat.toDigits 16 number

/-- A character as an escape with its code. -/
def escapeCode (character : Char) : List Char :=
  ['\\', 'u', '\x7b'] ++ hexadecimal character.toNat ++ ['\x7d']

/-- A character as it stands in quoted text. -/
def escape (character : Char) : List Char :=
  if character = '\x00' then ['\\', '0']
  else if character = '\t' then ['\\', 't']
  else if character = '\r' then ['\\', 'r']
  else if character = '\n' then ['\\', 'n']
  else if character = '\\' ∨ character = '"' ∨ character = '\'' then ['\\', character]
  else if isExtending character then escapeCode character
  else if isPrintable character then [character]
  else escapeCode character

/-- A text with escapes between double quotes. -/
def quoteList (characters : List Char) : List Char :=
  '"' :: characters.flatMap escape ++ ['"']

/-- A text with escapes between double quotes. -/
def quote (text : String) : String :=
  String.ofList (quoteList text.toList)

end QuizFeed.Text
