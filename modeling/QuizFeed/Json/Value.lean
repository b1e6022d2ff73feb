import QuizFeed.Decimal.Shortest

/-!
# JSON values

An object keeps its members in the order in which they were read, so a key may occur more than
once; `member?` answers with the last one.
-/

namespace QuizFeed.Json

open QuizFeed.Decimal

/-- A number: integers that fit in 64 bits stay exact, every other number is a double. -/
inductive Number where
  | integer (value : Int)
  | real (value : Binary64)
  deriving DecidableEq, Repr

/-- The text of a number. -/
def Number.render : Number → String
  | .integer value => toString value
  | .real value => value.render

/-- A JSON value. -/
inductive Value where
  | null
  | boolean (value : Bool)
  | number (value : Number)
  | text (value : String)
  | list (items : List Value)
  | object (members : List (String × Value))
  deriving Repr

namespace Value

/-- The last value that a list of members gives to a key. -/
def lookup (key : String) : List (String × Value) → Option Value
  | [] => none
  | (name, value) :: rest =>
    match lookup key rest with
    | some later => some later
    | none => if name = key then some value else none

/-- The members of an object. -/
def members? : Value → Option (List (String × Value))
  | object members => some members
  | _ => none

/-- The value of a key, for an object that has it. -/
def member? (key : String) (value : Value) : Option Value :=
  value.members?.bind (lookup key)

/-- The characters of a text value. -/
def text? : Value → Option String
  | text value => some value
  | _ => none

/-- The elements of a list value. -/
def items? : Value → Option (List Value)
  | list items => some items
  | _ => none

end Value
end QuizFeed.Json
