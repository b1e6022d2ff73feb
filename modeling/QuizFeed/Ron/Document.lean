import QuizFeed.Ron.Value

/-!
# Reading RON documents

A document is an optional header that changes the notation, and one value. Records are read by a
list of the fields that they know: fields may come in any order and at most once, and fields that
are not in the list are passed over.
-/

namespace QuizFeed.Ron

namespace Reader

/-- A truth value. -/
def boolean : Reader Bool := do
  if ← acceptWord "true" then pure true
  else if ← acceptWord "false" then pure false
  else fail .expectedBoolean

/-- A value that may be absent. -/
def option {α : Type} (value : Reader α) : Reader (Option α) := do
  if ← acceptWord "None" then pure none
  else
    let wrapped ←
      if ← acceptWord "Some" then
        skipSpace
        acceptOne '('
      else pure false
    if wrapped then
      skipSpace
      let result ← value
      let _ ← comma
      expect ')' .expectedClosing
      pure (some result)
    else if (← get).mode.implicitSome then some <$> value
    else fail .expectedOption

/-- One of two names. -/
def choice {α : Type} (enumeration : String) (first second : String × α) : Reader α := do
  let name ← identifier
  if name = first.1 then pure first.2
  else if name = second.1 then pure second.2
  else fail (.unknownVariant name enumeration first.1 second.1)

/-- What follows a key: a colon and the value. -/
def valueOfKey {α : Type} (value : Reader α) : Reader α := do
  skipSpace
  expect ':' .expectedColon
  skipSpace
  value

/-- A map from strings, whose entries are added one after the other. -/
def map {α σ : Type} (value : Reader α) (add : σ → String → α → σ) (start : σ) : Reader σ := do
  expect '\x7b' .expectedMap
  enclosed '\x7d' .expectedMapEnd (fun state => do
    let key ← string
    let value ← valueOfKey value
    pure (add state key value)) start

end Reader

/-- A field of a record that is being read: its name, whether a record has it already, and how it
is added to one. -/
structure RecordField (σ : Type) where
  name : String
  isSet : σ → Bool
  read : σ → Reader σ

/-- A field that fills an empty place of a record. -/
def RecordField.of {α σ : Type} (name : String) (get : σ → Option α) (set : σ → α → σ)
    (value : Reader α) : RecordField σ where
  name := name
  isSet state := (get state).isSome
  read state := do
    let value ← value
    pure (set state value)

namespace Reader

/-- The name of a record, which may be left out unless the header asks for it. -/
def recordName (name : String) : Reader Unit := do
  let rest ← unread
  if rest.head?.any Text.isIdentifierContinue then
    fun cursor =>
      match identifier cursor with
      | .ok (found, after) =>
        if found = name then .ok ((), after) else fail (.otherRecord name found) after
      | .error failure =>
        match failure.cause with
        | .rawIdentifier found =>
          .error { failure with
            cause := if found = name then .rawIdentifier found else .expectedRecord name }
        | _ => .error { failure with cause := .expectedRecord name }
  else if (← get).mode.explicitNames then fail (.expectedRecordName name)
  else pure ()

/-- One field of a record. -/
def field {σ : Type} (record : String) (depth : Nat) (fields : List (RecordField σ)) (state : σ) :
    Reader σ := do
  let name ← identifier
  match fields.find? fun field => field.name == name with
  | some known =>
    if known.isSet state then fail (.duplicateField name record)
    else valueOfKey (known.read state)
  | none =>
    valueOfKey (anyValue depth)
    pure state

/-- A record with known fields. `depth` is how many levels are left for values that are passed
over, and `finish` completes the record or names what is wrong with it. -/
def record {α σ : Type} (name : String) (depth : Nat) (fields : List (RecordField σ)) (start : σ)
    (finish : σ → Except Cause α) : Reader α := do
  recordName name
  skipSpace
  expect '(' (.expectedRecord name)
  let state ← items ')' (field name depth fields) ((← unread).length + 1) true start
  match finish state with
  | .error cause => fail cause
  | .ok result =>
    skipSpace
    expect ')' .expectedClosing
    pure result

/-- The mode that a name of a header switches on. -/
def extension (mode : Mode) (name : String) : Reader Mode :=
  match name with
  | "implicit_some" => pure { mode with implicitSome := true }
  | "explicit_struct_names" => pure { mode with explicitNames := true }
  | "unwrap_newtypes" => pure mode
  | "unwrap_variant_newtypes" => pure mode
  | _ => fail (.unknownExtension name)

/-- The names of one line of a header. -/
def extensions : Nat → Mode → Reader Mode
  | 0, _ => fail .endOfText
  | fuel + 1, mode => do
    let mode ← extension mode (← identifier)
    let separated ← comma
    let another := (← unread).head?.any Text.isIdentifierContinue
    if !separated && another then fail .expectedComma
    else if separated && another then extensions fuel mode
    else pure mode

/-- Moves over texts with white space behind each, and says whether all of them were there. -/
def acceptAll : List String → Reader Bool
  | [] => pure true
  | text :: rest => do
    let found ← accept text.toList
    if found then skipSpace
    let others ← acceptAll rest
    pure (found && others)

/-- The lines of a header. -/
def header : Nat → Mode → Reader Mode
  | 0, mode => pure mode
  | fuel + 1, mode => do
    if (← peek) = some '#' then
      if !(← acceptAll ["#", "!", "[", "enable", "("]) then fail .expectedAttribute
      skipSpace
      let mode ← extensions ((← unread).length + 1) mode
      skipSpace
      if !(← acceptAll [")", "]"]) then fail .expectedAttributeEnd
      skipSpace
      header fuel mode
    else pure mode

/-- A whole document. -/
def document {α : Type} (value : Reader α) : Reader α := do
  skipSpace
  let mode ← header ((← unread).length + 1) {}
  modify fun cursor => { cursor with mode := mode }
  let result ← value
  skipSpace
  if !(← unread).isEmpty then fail .trailingCharacters
  pure result

end Reader

/-- Reads a text as a document with some value. -/
def read {α : Type} (value : Reader α) (text : String) : Except Failure α :=
  (Reader.document value ⟨text.toList, text.toList, {}⟩).map Prod.fst

end QuizFeed.Ron
