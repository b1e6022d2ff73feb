import QuizFeed.Command.Refusal

/-!
# Reading arguments

A command takes parameters by position and by switches. A parameter is settled when the next one
starts or at the end, so that what is wrong with its value is found only then. `Grammar.read` reads
the arguments of a command up to the name of a command below it.
-/

namespace QuizFeed.Command

/-- A parameter of a command whose parameters are kept in `σ`. -/
structure Parameter (σ : Type) where
  label : String
  isGiven : σ → Bool
  give : σ → String → Except Refusal σ

/-- A parameter that is kept in a field, which is empty as long as the parameter is not given. -/
def Parameter.of {σ α : Type} (label : String) (get : σ → Option α) (set : σ → α → σ)
    (read : String → Except Refusal α) : Parameter σ where
  label := label
  isGiven state := (get state).isSome
  give state value := set state <$> read value

/-- What a switch does: it shows help, or gives a parameter a fixed value or the one that
follows. -/
inductive Action (σ : Type) where
  | help
  | flag (parameter : Parameter σ)
  | option (parameter : Parameter σ)

/-- A name that starts with two dashes, perhaps with a letter for short. -/
structure Switch (σ : Type) where
  name : String
  letter : Option Char
  action : Action σ

/-- What may be given to a command. -/
structure Grammar (σ : Type) where
  topic : Option String
  switches : List (Switch σ)
  positions : List (Parameter σ)
  commands : List String

/-- The state of reading arguments. A pending parameter waits for its value or for being settled;
`literal` says that switches are no longer recognised. -/
structure Reading (σ : Type) where
  state : σ
  pending : Option (Parameter σ × Option String)
  positions : List (Parameter σ)
  literal : Bool

namespace Reading

variable {σ : Type}

/-- Whether the next argument is the value of an option. -/
def awaitsValue (reading : Reading σ) : Bool :=
  match reading.pending with
  | some (_, none) => true
  | _ => false

/-- Gives a parameter a value, which may be done once. -/
def give (reading : Reading σ) (parameter : Parameter σ) (value : String) :
    Except Refusal (Reading σ) := do
  if parameter.isGiven reading.state then throw (.repeated parameter.label)
  pure { reading with state := ← parameter.give reading.state value }

/-- Settles the pending parameter. -/
def settle (reading : Reading σ) : Except Refusal (Reading σ) :=
  match reading.pending with
  | none => .ok reading
  | some (parameter, none) => .error (.missingValue parameter.label)
  | some (parameter, some value) => { reading with pending := none }.give parameter value

/-- Settles the pending parameter and lets another one wait. -/
def await (reading : Reading σ) (parameter : Parameter σ) (value : Option String) :
    Except Refusal (Reading σ) := do
  pure { ← reading.settle with pending := some (parameter, value) }

/-- Settles the pending parameter and sets a flag. -/
def raise (reading : Reading σ) (parameter : Parameter σ) : Except Refusal (Reading σ) := do
  (← reading.settle).give parameter "true"

end Reading

/-- The forms of arguments. -/
inductive Form where
  | separator
  | long (name : String) (attached : Option String)
  | short (letters : List Char)
  | plain

/-- The form of an argument. -/
def formOf (argument : String) : Form :=
  match argument.toList with
  | ['-', '-'] => .separator
  | '-' :: '-' :: rest =>
    let name := rest.takeWhile (· != '=')
    match rest.dropWhile (· != '=') with
    | [] => .long (String.ofList name) none
    | _ :: value => .long (String.ofList name) (some (String.ofList value))
  | '-' :: letter :: letters => .short (letter :: letters)
  | _ => .plain

namespace Grammar

variable {σ : Type} (grammar : Grammar σ)

/-- The action of a switch. -/
def actionOf? (matching : Switch σ → Bool) : Option (Action σ) :=
  (grammar.switches.find? matching).map Switch.action

/-- Reads a switch by its name. -/
def takeLong (reading : Reading σ) (name : String) (attached : Option String) :
    Except Refusal (Reading σ) := do
  match grammar.actionOf? (·.name == name), attached with
  | none, _ => throw (.unexpectedArgument ("--" ++ name))
  | some .help, none =>
    let _ ← reading.settle
    throw (.help grammar.topic true)
  | some .help, some value => throw (.unexpectedValue value "--help")
  | some (.flag parameter), none => reading.raise parameter
  | some (.flag parameter), some value => throw (.unexpectedValue value parameter.label)
  | some (.option parameter), none => reading.await parameter none
  | some (.option parameter), some value => (← reading.settle).give parameter value

/-- Reads a switch by its letter. -/
def takeLetter (reading : Reading σ) (letter : Char) : Except Refusal (Reading σ) := do
  match grammar.actionOf? (·.letter == some letter) with
  | none => throw (.unexpectedArgument (String.ofList ['-', letter]))
  | some .help =>
    let _ ← reading.settle
    throw (.help grammar.topic false)
  | some (.flag parameter) => reading.raise parameter
  | some (.option parameter) => reading.await parameter none

/-- Reads an argument by its position. -/
def takePlain (reading : Reading σ) (argument : String) : Except Refusal (Reading σ) := do
  match reading.positions with
  | parameter :: others =>
    pure { ← reading.await parameter (some argument) with positions := others }
  | [] =>
    if grammar.commands.isEmpty then throw (.unexpectedArgument argument)
    else if reading.literal ∧ grammar.commands.contains argument then
      throw (.unexpectedArgument argument)
    else throw (.unknownCommand argument)

/-- Reads an argument. -/
def take (reading : Reading σ) (argument : String) : Except Refusal (Reading σ) :=
  if reading.literal then grammar.takePlain reading argument
  else
    match formOf argument with
    | .separator => .ok { reading with literal := true }
    | .long name attached => grammar.takeLong reading name attached
    | .short letters => letters.foldlM grammar.takeLetter reading
    | .plain =>
      match reading.pending with
      | some (parameter, none) => .ok { reading with pending := some (parameter, some argument) }
      | _ => grammar.takePlain reading argument

/-- Reads arguments up to the name of a command, which is given together with what follows it. -/
def scan (reading : Reading σ) :
    List String → Except Refusal (Reading σ × Option (String × List String))
  | [] => .ok (reading, none)
  | argument :: rest => do
    if !reading.literal && !reading.awaitsValue && grammar.commands.contains argument then
      pure (reading, some (argument, rest))
    else scan (← grammar.take reading argument) rest

/-- The state of reading before the first argument. -/
def start (state : σ) : Reading σ where
  state := state
  pending := none
  positions := grammar.positions
  literal := false

/-- Reads the arguments of a command that has no commands below it. All its positions have to be
given. -/
def readAll (state : σ) (arguments : List String) : Except Refusal σ := do
  let (reading, _) ← grammar.scan (grammar.start state) arguments
  let reading ← reading.settle
  if reading.positions.isEmpty then pure reading.state else throw .missingArguments

end Grammar
end QuizFeed.Command
