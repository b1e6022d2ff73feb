import QuizFeed.Ron.Failure

/-!
# Moving through a RON text

A cursor stands before the characters that are not read yet and remembers a mark, where its last
move started. Failures reach from the mark to the cursor. `step` is the only move that leaves the
mark where it is.
-/

namespace QuizFeed.Ron

/-- What the header of a document may change about the notation. -/
structure Mode where
  implicitSome : Bool := false
  explicitNames : Bool := false
  deriving DecidableEq, Repr

/-- A place in a text. -/
@[ext] structure Cursor where
  unread : List Char
  marked : List Char
  mode : Mode := {}
  deriving DecidableEq, Repr

/-- Reads something at a cursor and moves it. -/
abbrev Reader (α : Type) := StateT Cursor (Except Failure) α

namespace Reader

/-- Fails between the mark and the cursor. -/
def fail {α : Type} (cause : Cause) : Reader α := fun cursor =>
  .error ⟨cause, cursor.marked.length, cursor.unread.length⟩

/-- The characters that are not read yet. -/
def unread : Reader (List Char) := fun cursor =>
  .ok (cursor.unread, cursor)

/-- The next character, if there is one. -/
def peek : Reader (Option Char) := fun cursor =>
  .ok (cursor.unread.head?, cursor)

/-- Moves over some characters, and marks where the move started. -/
def advance (count : Nat) : Reader Unit := fun cursor =>
  .ok ((), { cursor with unread := cursor.unread.drop count, marked := cursor.unread })

/-- The next character, and a move over it that leaves the mark. -/
def step : Reader Char := fun cursor =>
  match cursor.unread with
  | [] => fail .endOfText cursor
  | character :: rest => .ok (character, { cursor with unread := rest })

/-- Moves over a given text, if it comes next. -/
def accept (text : List Char) : Reader Bool := do
  if text.isPrefixOf (← unread) then
    advance text.length
    pure true
  else pure false

/-- Moves over a given character, if it comes next. -/
def acceptOne (character : Char) : Reader Bool :=
  accept [character]

/-- Moves over a given character, or fails. -/
def expect (character : Char) (cause : Cause) : Reader Unit := do
  if !(← acceptOne character) then fail cause

/-- White space between the parts of a document. -/
def isSpace (character : Char) : Bool :=
  [' ', '\t', '\n', '\r', '\x0B', '\x0C', '\u0085', '\u200E', '\u200F', '\u2028',
    '\u2029'].contains character

/-- Moves behind the end of a block comment that is `level` deep. -/
def skipBlock : Nat → Nat → Reader Unit
  | _, 0 => pure ()
  | 0, _ => fail .unclosedComment
  | fuel + 1, level + 1 => do
    let run := (← unread).takeWhile fun character => character != '/' && character != '*'
    if (← unread).isEmpty then fail .unclosedComment
    advance run.length
    if ← accept ['/', '*'] then skipBlock fuel (level + 2)
    else if ← accept ['*', '/'] then skipBlock fuel level
    else
      match ← peek with
      | none => fail .unclosedComment
      | some _ =>
        let _ ← step
        skipBlock fuel (level + 1)

/-- What follows white space. -/
inductive Comment where
  | none
  | closed
  | lastLine
  deriving DecidableEq, Repr

/-- Moves over a comment, if there is one. -/
def skipComment : Reader Comment := do
  if ← acceptOne '/' then
    match ← step with
    | '/' =>
      let run := (← unread).takeWhile (· != '\n')
      advance run.length
      if (← unread).isEmpty then pure .lastLine else pure .closed
    | '*' =>
      skipBlock (2 * (← unread).length + 1) 1
      pure .closed
    | character => fail (.unexpectedCharacter character)
  else pure .none

/-- Moves over white space and comments, at most `fuel` of them. -/
def skipSpaces : Nat → Reader Unit
  | 0 => pure ()
  | fuel + 1 => do
    let run := (← unread).takeWhile isSpace
    advance run.length
    match ← skipComment with
    | .closed => skipSpaces fuel
    | _ => pure ()

/-- Moves over white space and comments. At the end of the text even the mark stays. -/
def skipSpace : Reader Unit := do
  let rest ← unread
  if rest.isEmpty then pure () else skipSpaces (rest.length + 1)

/-- Moves over a comma and the white space around it, and says whether there was one. -/
def comma : Reader Bool := do
  skipSpace
  if ← acceptOne ',' then
    skipSpace
    pure true
  else pure false

/-- Whether a word, and not only its beginning, comes next. -/
def sees (word : List Char) (rest : List Char) : Bool :=
  word.isPrefixOf rest && !((rest.drop word.length).head?.any Text.isIdentifierContinue)

/-- Moves over a word, if it comes next. -/
def acceptWord (word : String) : Reader Bool := do
  if sees word.toList (← unread) then
    advance word.toList.length
    pure true
  else pure false

/-- Whether a string or byte literal that starts with a letter comes next. -/
def seesLiteral (rest : List Char) : Bool :=
  ["r\"", "r##", "b\"", "b'", "br\"", "br#"].any fun start => start.toList.isPrefixOf rest

/-- A name of a field, a variant or an extension. -/
def identifier : Reader String := do
  let rest ← unread
  match rest with
  | [] => fail .endOfText
  | first :: _ =>
    let raw := rest.takeWhile isRawCharacter
    if !startsWord first then
      if isRawCharacter first then fail (.rawIdentifier (String.ofList raw))
      else fail .expectedIdentifier
    else if seesLiteral rest then fail .expectedIdentifier
    else if ['r', '#'].isPrefixOf rest then
      let name := (rest.drop 2).takeWhile isRawCharacter
      if name.isEmpty then
        -- The move over the mark is taken back, but where it started stays marked.
        modify fun cursor => { cursor with marked := cursor.unread }
        fail .expectedIdentifier
      else
        advance 2
        advance name.length
        pure (String.ofList name)
    else
      let plain := rest.takeWhile Text.isIdentifierContinue
      if raw.length > plain.length then fail (.rawIdentifier (String.ofList raw))
      else
        advance plain.length
        pure (String.ofList plain)

/-- Any word, raw or plain, without regard to what follows it. -/
def anyWord : Reader Bool := do
  let rest ← unread
  if ["b\"", "b'", "br#", "br\"", "r\"", "r#\"", "r##"].any
      fun start => start.toList.isPrefixOf rest then pure false
  else if ['r', '#'].isPrefixOf rest then
    let name := (rest.drop 2).takeWhile isRawCharacter
    if name.isEmpty then pure false
    else
      advance (2 + name.length)
      pure true
  else
    match rest with
    | [] => pure false
    | first :: others =>
      if startsWord first then
        advance (1 + (others.takeWhile Text.isIdentifierContinue).length)
        pure true
      else pure false

/-- Reads items up to a closing character. Commas stand between items, and one may follow the
last. `separated` says whether another item may start here. -/
def items {σ : Type} (closing : Char) (item : σ → Reader σ) :
    Nat → Bool → σ → Reader σ
  | 0, _, _ => fail .endOfText
  | fuel + 1, separated, state => do
    skipSpace
    if (← peek) = some closing then pure state
    else if !separated then fail .expectedComma
    else
      let state ← item state
      items closing item fuel (← comma) state

/-- Reads all items up to a closing character, and moves over it. -/
def enclosed {σ : Type} (closing : Char) (cause : Cause) (item : σ → Reader σ) (start : σ) :
    Reader σ := do
  let state ← items closing item ((← unread).length + 1) true start
  skipSpace
  expect closing cause
  pure state

end Reader
end QuizFeed.Ron
