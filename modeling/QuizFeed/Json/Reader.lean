import QuizFeed.Json.Text

/-!
# Reading JSON

`Json.read` reads a whole text as one value. Lists and objects nest at most 127 deep. The fuel of
the inner functions counts calls: each of them consumes a byte or hands over to one that does, so
twice the length of the text is enough.
-/

namespace QuizFeed.Json

/-- The bytes after any white space. -/
def skipSpace (unread : List UInt8) : List UInt8 :=
  unread.dropWhile fun byte => byte == 0x20 || byte == 0x0A || byte == 0x09 || byte == 0x0D

/-- The rest of a literal word whose first letter has been read. -/
def readWord (value : Value) : List UInt8 → List UInt8 → Except Failure (Value × List UInt8)
  | [], unread => .ok (value, unread)
  | _ :: _, [] => failHere .endInValue []
  | letter :: letters, byte :: rest =>
    if byte = letter then readWord value letters rest else failHere .expectedWord rest

mutual

/-- One value, with any white space before it. -/
def readValue (fuel depth : Nat) (unread : List UInt8) : Except Failure (Value × List UInt8) :=
  match fuel with
  | 0 => failNext .endInValue unread
  | fuel + 1 =>
    match skipSpace unread with
    | [] => failNext .endInValue []
    | byte :: rest =>
      if byte = 0x6E then readWord .null [0x75, 0x6C, 0x6C] rest
      else if byte = 0x74 then readWord (.boolean true) [0x72, 0x75, 0x65] rest
      else if byte = 0x66 then readWord (.boolean false) [0x61, 0x6C, 0x73, 0x65] rest
      else if byte = 0x2D then
        match readNumber true rest with
        | .ok (number, rest) => .ok (.number number, rest)
        | .error failure => .error failure
      else if (digit? byte).isSome then
        match readNumber false (byte :: rest) with
        | .ok (number, rest) => .ok (.number number, rest)
        | .error failure => .error failure
      else if byte = 0x22 then
        match readString rest with
        | .ok (text, rest) => .ok (.text text, rest)
        | .error failure => .error failure
      else if byte = 0x5B then
        if depth ≤ 1 then failNext .tooDeep (byte :: rest)
        else
          match readItems fuel (depth - 1) #[] rest with
          | .ok (items, rest) => .ok (.list items.toList, rest)
          | .error failure => .error failure
      else if byte = 0x7B then
        if depth ≤ 1 then failNext .tooDeep (byte :: rest)
        else
          match readMembers fuel (depth - 1) #[] rest with
          | .ok (members, rest) => .ok (.object members.toList, rest)
          | .error failure => .error failure
      else failNext .expectedValue (byte :: rest)

/-- The remaining items of a list, with its closing bracket. -/
def readItems (fuel depth : Nat) (items : Array Value) (unread : List UInt8) :
    Except Failure (Array Value × List UInt8) :=
  match fuel with
  | 0 => failNext .endInList unread
  | fuel + 1 =>
    match skipSpace unread with
    | [] => failNext .endInList []
    | byte :: rest =>
      if byte = 0x5D then .ok (items, rest)
      else if items.isEmpty then
        match readValue fuel depth (byte :: rest) with
        | .ok (item, rest) => readItems fuel depth (items.push item) rest
        | .error failure => .error failure
      else if byte = 0x2C then
        match skipSpace rest with
        | [] => failNext .endInValue []
        | next :: rest =>
          if next = 0x5D then failNext .trailingComma (next :: rest)
          else
            match readValue fuel depth (next :: rest) with
            | .ok (item, rest) => readItems fuel depth (items.push item) rest
            | .error failure => .error failure
      else failNext .expectedListCommaOrEnd (byte :: rest)

/-- The remaining members of an object, with its closing brace. -/
def readMembers (fuel depth : Nat) (members : Array (String × Value)) (unread : List UInt8) :
    Except Failure (Array (String × Value) × List UInt8) :=
  match fuel with
  | 0 => failNext .endInObject unread
  | fuel + 1 =>
    match skipSpace unread with
    | [] => failNext .endInObject []
    | byte :: rest =>
      if byte = 0x7D then .ok (members, rest)
      else if members.isEmpty then
        if byte = 0x22 then
          match readMember fuel depth rest with
          | .ok (member, rest) => readMembers fuel depth (members.push member) rest
          | .error failure => .error failure
        else failNext .keyNotText (byte :: rest)
      else if byte = 0x2C then
        match skipSpace rest with
        | [] => failNext .endInValue []
        | next :: rest =>
          if next = 0x22 then
            match readMember fuel depth rest with
            | .ok (member, rest) => readMembers fuel depth (members.push member) rest
            | .error failure => .error failure
          else if next = 0x7D then failNext .trailingComma (next :: rest)
          else failNext .keyNotText (next :: rest)
      else failNext .expectedObjectCommaOrEnd (byte :: rest)

/-- One member of an object after the opening quote of its key. -/
def readMember (fuel depth : Nat) (unread : List UInt8) :
    Except Failure ((String × Value) × List UInt8) :=
  match fuel with
  | 0 => failNext .endInObject unread
  | fuel + 1 =>
    match readString unread with
    | .error failure => .error failure
    | .ok (key, rest) =>
      match skipSpace rest with
      | [] => failNext .endInObject []
      | byte :: rest =>
        if byte = 0x3A then
          match readValue fuel depth rest with
          | .ok (value, rest) => .ok ((key, value), rest)
          | .error failure => .error failure
        else failNext .expectedColon (byte :: rest)

end

/-- How many lists and objects may be open at once, plus one. -/
def depthLimit : Nat := 128

/-- Reads a whole text as one value. -/
def read (input : List UInt8) : Except Failure Value :=
  match readValue (2 * input.length + 2) depthLimit input with
  | .error failure => .error failure
  | .ok (value, rest) =>
    match skipSpace rest with
    | [] => .ok value
    | byte :: rest => failNext .trailingCharacters (byte :: rest)

end QuizFeed.Json
