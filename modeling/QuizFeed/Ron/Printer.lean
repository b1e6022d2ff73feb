import QuizFeed.Text.Quoted

/-!
# Writing RON documents

Documents are written with one field to a line, indented by four spaces for each level, and with
a comma behind every field. Empty maps take no lines.
-/

namespace QuizFeed.Ron

/-- A value to be written. -/
inductive Value where
  | string (text : String)
  | boolean (value : Bool)
  | word (name : String)
  | none
  | some (value : Value)
  | record (fields : List (String × Value))
  | map (entries : List (String × Value))

namespace Value

/-- The spaces before a line at some level. -/
def indent (level : Nat) : List Char :=
  List.replicate (4 * level) ' '

mutual

/-- The text of a value at some level. -/
def write (level : Nat) : Value → List Char
  | string text => Text.quoteList text.toList
  | boolean value => (if value then "true" else "false").toList
  | word name => name.toList
  | none => "None".toList
  | some value => "Some(".toList ++ write level value ++ [')']
  | record fields => '(' :: '\n' :: writeFields level fields ++ indent level ++ [')']
  | map [] => ['\x7b', '\x7d']
  | map entries => '\x7b' :: '\n' :: writeEntries level entries ++ indent level ++ ['\x7d']

/-- The lines of the fields of a record at some level. -/
def writeFields (level : Nat) : List (String × Value) → List Char
  | [] => []
  | (name, value) :: rest =>
    indent (level + 1) ++ name.toList ++ ": ".toList ++ write (level + 1) value ++ ",\n".toList ++
      writeFields level rest

/-- The lines of the entries of a map at some level. -/
def writeEntries (level : Nat) : List (String × Value) → List Char
  | [] => []
  | (key, value) :: rest =>
    indent (level + 1) ++ Text.quoteList key.toList ++ ": ".toList ++ write (level + 1) value ++
      ",\n".toList ++ writeEntries level rest

end

/-- The document of a value. -/
def document (value : Value) : String :=
  String.ofList (value.write 0)

end Value
end QuizFeed.Ron
