import QuizFeed.Path

/-!
# Logs

What the library reports while it works. A record has a level, the part of the library that it
comes from, and a text.
-/

namespace QuizFeed.Log

/-- How serious a record is. -/
inductive Level where
  | error
  | warn
  | info
  | debug
  deriving DecidableEq, Repr

namespace Level

/-- The name of a level. -/
def name : Level → String
  | error => "ERROR"
  | warn => "WARN"
  | info => "INFO"
  | debug => "DEBUG"

/-- The place of a level in the order from serious to detailed. -/
def rank : Level → Nat
  | error => 0
  | warn => 1
  | info => 2
  | debug => 3

end Level

/-- Something that was reported. -/
structure Record where
  level : Level
  origin : String
  text : String
  deriving DecidableEq, Repr

/-- A record with its level in front. -/
def Record.headline (record : Record) : String :=
  record.level.name ++ " " ++ record.text

/-- The beginning of a secret, which is all of it that is ever reported. -/
def redact (secret : String) : String :=
  String.ofList (secret.toList.take 4 ++ ['…'])

end QuizFeed.Log
