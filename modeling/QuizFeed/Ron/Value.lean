import QuizFeed.Ron.Number

/-!
# Passing over values

A field that a record does not know may hold any value. `anyValue` moves over it: words with or
without fields, tuples, lists, maps, numbers, strings and characters. Every list, record, element
and key takes one level of the depth that a document may have.
-/

namespace QuizFeed.Ron.Reader

/-- How many levels deep a document may be. -/
def depthLimit : Nat := 128

/-- Whether named fields follow an opening parenthesis at the cursor; the cursor stays. -/
def seesNamedFields : Reader Bool := do
  let start ← get
  let _ ← acceptOne '('
  skipSpace
  let named ←
    if (← peek) = some ')' then pure false
    else if ← anyWord then
      skipSpace
      match ← peek with
      | some ':' => pure true
      | some ',' =>
        let _ ← step
        skipSpace
        pure false
      | _ => pure false
    else pure false
  modify fun cursor => { start with marked := cursor.marked }
  pure named

mutual

/-- Moves over any value, at most `depth` levels deep. -/
def anyValue (depth : Nat) : Reader Unit := do
  let rest ← unread
  if ← acceptWord "true" then pure ()
  else if ← acceptWord "false" then pure ()
  else if sees "Some".toList rest then anySome depth
  else if ← acceptWord "None" then pure ()
  else if ← accept ['(', ')'] then pure ()
  else if ← acceptWord "inf" then pure ()
  else if ← acceptWord "inff32" then pure ()
  else if ← acceptWord "inff64" then pure ()
  else if ← acceptWord "NaN" then pure ()
  else if ← acceptWord "NaNf32" then pure ()
  else if ← acceptWord "NaNf64" then pure ()
  else if ← anyWord then
    skipSpace
    if (← peek) = some '(' then anyFields depth else pure ()
  else
    match ← unread with
    | [] => fail .endOfText
    | '(' :: _ => anyFields depth
    | '[' :: _ =>
      advance 1
      anyItems depth ']' .expectedListEnd
    | '\x7b' :: _ =>
      advance 1
      anyEntries depth '\x7d' .expectedMapEnd false
    | '"' :: _ =>
      let _ ← string
    | 'r' :: _ =>
      let _ ← string
    | 'b' :: '\'' :: _ => number
    | 'b' :: _ => byteString
    | '\'' :: _ => character
    | first :: _ =>
      if Text.isAsciiDigit first || first == '+' || first == '-' || first == '.' then number
      else fail (.unexpectedCharacter first)
termination_by (depth, 2)

/-- Moves over an optional value that starts with `Some`. -/
def anySome (depth : Nat) : Reader Unit := do
  let _ ← acceptWord "Some"
  skipSpace
  if ← acceptOne '(' then
    skipSpace
    match depth with
    | 0 => fail .tooDeep
    | depth + 1 => anyValue depth
    let _ ← comma
    expect ')' .expectedClosing
  else if (← get).mode.implicitSome then
    match depth with
    | 0 => fail .tooDeep
    | depth + 1 => anyValue depth
  else fail .expectedOption
termination_by (depth, 1)

/-- Moves over fields or elements in parentheses. -/
def anyFields (depth : Nat) : Reader Unit := do
  let named ← seesNamedFields
  advance 1
  if named then anyEntries depth ')' .expectedClosing true
  else anyItems depth ')' .expectedClosing
termination_by (depth, 1)

/-- Moves over elements up to a closing character. -/
def anyItems (depth : Nat) (closing : Char) (cause : Cause) : Reader Unit := do
  match depth with
  | 0 => fail .tooDeep
  | 1 =>
    enclosed closing cause (fun () => fail .tooDeep) ()
  | depth + 2 =>
    enclosed closing cause (fun () => anyValue depth) ()
termination_by (depth, 0)

/-- Moves over entries up to a closing character; the keys of fields are names. -/
def anyEntries (depth : Nat) (closing : Char) (cause : Cause) (named : Bool) : Reader Unit := do
  match depth with
  | 0 => fail .tooDeep
  | 1 =>
    enclosed closing cause (fun () => fail .tooDeep) ()
  | depth + 2 =>
    enclosed closing cause (fun () => do
      if named then
        let _ ← identifier
      else anyValue depth
      skipSpace
      expect ':' .expectedColon
      skipSpace
      anyValue depth) ()
termination_by (depth, 0)

end

end QuizFeed.Ron.Reader
