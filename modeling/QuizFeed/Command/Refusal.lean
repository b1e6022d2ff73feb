/-!
# Command lines that are not run

A command line is either a request for help or has something wrong with it.
-/

namespace QuizFeed.Command

/-- Why a command line is not run. `label` is a parameter as it is shown in messages; help is asked
for on the program or on one of its commands, in short or in full. -/
inductive Refusal where
  | help (topic : Option String) (inFull : Bool)
  | nothingGiven
  | missingCommand
  | unknownCommand (name : String)
  | unexpectedArgument (text : String)
  | missingArguments
  | missingValue (label : String)
  | invalidValue (value label : String)
  | rejectedValue (value label reason : String)
  | unexpectedValue (value label : String)
  | repeated (label : String)
  deriving DecidableEq, Repr

/-- The name of the program. -/
def programName : String := "riddle"

/-- What the program is for. -/
def purpose : String := "Browse and resolve riddles from the Riddle feed"

/-- A text between single quotes. -/
def quoted (text : String) : String :=
  "'" ++ text ++ "'"

/-- The wording of a refusal. -/
def Refusal.message : Refusal → String
  | help _ _ | nothingGiven => purpose
  | missingCommand =>
    "error: " ++ quoted programName ++ " requires a subcommand but one was not provided"
  | unknownCommand name => "error: unrecognized subcommand " ++ quoted name
  | unexpectedArgument text => "error: unexpected argument " ++ quoted text ++ " found"
  | missingArguments => "error: the following required arguments were not provided:"
  | missingValue label =>
    "error: a value is required for " ++ quoted label ++ " but none was supplied"
  | invalidValue value label =>
    "error: invalid value " ++ quoted value ++ " for " ++ quoted label
  | rejectedValue value label reason =>
    "error: invalid value " ++ quoted value ++ " for " ++ quoted label ++ ": " ++ reason
  | unexpectedValue value label =>
    "error: unexpected value " ++ quoted value ++ " for " ++ quoted label ++
      " found; no more were expected"
  | repeated label =>
    "error: the argument " ++ quoted label ++ " cannot be used multiple times"

end QuizFeed.Command
