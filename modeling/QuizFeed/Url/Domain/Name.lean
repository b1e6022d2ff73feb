import QuizFeed.Text.Composition
import QuizFeed.Text.Direction
import QuizFeed.Text.Joining
import QuizFeed.Text.Mark
import QuizFeed.Url.Domain.Bootstring
import QuizFeed.Url.Domain.Mapping

/-!
# Domain names in ASCII

`Domain.toAscii` maps the characters of a domain name, composes them, checks every label, and
writes the labels that are not ASCII in their `xn--` form. A name has no ASCII form if a label
changes when it is mapped and composed again, starts with a mark, misplaces a joiner, mixes writing
directions, or is an `xn--` form of nothing.
-/

namespace QuizFeed.Url.Domain

open QuizFeed.Text

/-- Splits at every occurrence of a separator; there is always at least one part. -/
def splitAt (separator : Char) : List Char → List (List Char)
  | [] => [[]]
  | character :: rest =>
    let parts := splitAt separator rest
    if character = separator then [] :: parts
    else (character :: parts.headD []) :: parts.tail

/-- Puts the parts together again, with a separator between each two. -/
def joinWith (separator : Char) : List (List Char) → List Char
  | [] => []
  | [part] => part
  | part :: rest => part ++ separator :: joinWith separator rest

/-- Whether a character is part of ASCII. -/
def isAscii (character : Char) : Bool :=
  character.toNat < 0x80

/-- ASCII characters that no domain name may hold. -/
def isForbidden (character : Char) : Bool :=
  let code := character.toNat
  code ≤ 0x20 || code == 0x7F ||
    ['#', '/', ':', '<', '>', '?', '@', '[', '\\', ']', '^', '|', '%'].contains character

/-- How a label starts that stands for one with other characters. -/
def encodedMark : List Char :=
  ['x', 'n', '-', '-']

/-- The label behind an `xn--` form; it has a character beyond ASCII. -/
def decodeLabel (label : List Char) : Option (List Char) :=
  match Bootstring.decode (label.drop encodedMark.length) with
  | none => none
  | some decoded => if decoded.all isAscii then none else some decoded

/-- The label that is checked for a label of the mapped name. -/
def plainLabel (label : List Char) : Option (List Char) :=
  if encodedMark.isPrefixOf label then decodeLabel label else some label

/-- Whether a joiner may follow the characters before it, given in reverse, and precede those
after it. -/
def joinerFits (joiner : Char) (before after : List Char) : Bool :=
  match before with
  | [] => false
  | previous :: _ =>
    combiningClass previous == 9 ||
      (joiner == Char.ofNat 0x200C && connects before [.left, .both] &&
        connects after [.right, .both])
where
  /-- Whether the nearest character that is not transparent has one of the given types. -/
  connects (characters : List Char) (types : List Joining) : Bool :=
    match characters.dropWhile fun character => joining character == .transparent with
    | [] => false
    | character :: _ => types.contains (joining character)

/-- Whether every joiner of a label stands where it may. -/
def joinersFit (before : List Char) : List Char → Bool
  | [] => true
  | character :: rest =>
    (if character == Char.ofNat 0x200C || character == Char.ofNat 0x200D then
      joinerFits character before rest else true) && joinersFit (character :: before) rest

/-- Whether a character is written from right to left, or is a digit of such a script. -/
def turnsDirection (character : Char) : Bool :=
  [Direction.right, .arabicLetter, .arabicNumber].contains (direction character)

/-- Whether the last character before any trailing marks has one of the given classes. -/
def endsWith (classes : List Direction) (label : List Char) : Bool :=
  match label.reverse.dropWhile fun character => direction character == .nonspacingMark with
  | [] => false
  | character :: _ => classes.contains (direction character)

/-- Whether a label of a name with some right-to-left character keeps to one direction. -/
def directionFits (label : List Char) : Bool :=
  match label with
  | [] => true
  | first :: _ =>
    let classes := label.map direction
    match direction first with
    | .left =>
      (classes.all fun each => [Direction.left, .europeanNumber, .europeanSeparator,
        .commonSeparator, .europeanTerminator, .otherNeutral, .boundaryNeutral,
        .nonspacingMark].contains each) && endsWith [.left, .europeanNumber] label
    | .right | .arabicLetter =>
      (classes.all (· != .left)) &&
        endsWith [.right, .arabicLetter, .europeanNumber, .arabicNumber] label &&
        !(classes.contains .europeanNumber && classes.contains .arabicNumber)
    | _ => false

/-- Whether mapping and composing leave a label as it is. -/
def isSettled (label : List Char) : Bool :=
  (label.all fun character => mapCharacter character == some [character]) &&
    compose label == label

/-- Whether a label may be part of a domain name, its direction apart. -/
def labelFits (label : List Char) : Bool :=
  isSettled label && !(label.head?.any isMark) && joinersFit [] label

/-- The ASCII form of a label. -/
def writeLabel (label : List Char) : List Char :=
  if label.all isAscii then label else encodedMark ++ Bootstring.encode label

/-- The ASCII form of a domain name. -/
def toAscii (name : List Char) : Option (List Char) := do
  let mapped ← name.mapM mapCharacter
  let labels ← (splitAt '.' (compose mapped.flatten)).mapM plainLabel
  let turned := labels.any (·.any turnsDirection)
  let written := joinWith '.' (labels.map writeLabel)
  if labels.all labelFits && (!turned || labels.all directionFits) && !written.any isForbidden then
    some written
  else none

end QuizFeed.Url.Domain
