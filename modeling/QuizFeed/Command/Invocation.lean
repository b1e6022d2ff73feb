import QuizFeed.Command.Grammar
import QuizFeed.Log.Sink
import QuizFeed.Media.Field

/-!
# Invocations

What the program is asked to do, as read from its arguments and its environment. The environment
counts only for what the arguments leave open.
-/

namespace QuizFeed.Command

/-- The settings that a user changes. -/
structure Change where
  token : Option String := none
  unpublished : Option Bool := none
  titleStart : Option String := none
  deriving DecidableEq, Repr

/-- What is to be done. -/
inductive Task where
  | feed
  | lookup (code : String) (field : Media.Field)
  | thumbnail (code : String)
  | configure (change : Change)
  deriving DecidableEq, Repr

/-- Where the settings are, what overrides them, how to report, and what is to be done. -/
structure Invocation where
  settings : Path := ⟨"riddle_settings.ron"⟩
  token : Option String := none
  log : Log.Destination := .terminal
  verbose : Bool := false
  task : Task
  deriving DecidableEq, Repr

/-- The variables of the environment that count. -/
structure Environment where
  settings : Option String := none
  token : Option String := none
  deriving DecidableEq, Repr

/-- The switch for help. -/
def helpSwitch {σ : Type} : Switch σ :=
  ⟨"help", some 'h', .help⟩

/-- An option without a letter. -/
def option {σ : Type} (name : String) (parameter : Parameter σ) : Switch σ :=
  ⟨name, none, .option parameter⟩

/-- Reads any text. -/
def readText (value : String) : Except Refusal String :=
  .ok value

/-- Reads a path, which is not empty. -/
def readPath (label value : String) : Except Refusal Path :=
  if value = "" then .error (.missingValue label) else .ok ⟨value⟩

/-- Reads a name of something; an empty value counts as none. -/
def readName {α : Type} (ofName? : String → Option α) (label value : String) :
    Except Refusal α :=
  match ofName? value with
  | some result => .ok result
  | none => .error (if value = "" then .missingValue label else .invalidValue value label)

/-- Reads the name of a field. -/
def readField (label value : String) : Except Refusal Media.Field :=
  match Media.Field.ofName? value with
  | some field => .ok field
  | none => .error (.rejectedValue value label (Media.Field.unknownMessage value))

/-- The truth value with a name. -/
def truthOfName? : String → Option Bool
  | "true" => some true
  | "false" => some false
  | _ => none

/-- The parameters of a task that have been read. -/
structure TaskDraft where
  code : Option String := none
  field : Option Media.Field := none
  change : Change := {}

namespace TaskDraft

/-- The code of a quiz. -/
def codeParameter : Parameter TaskDraft :=
  .of "<CODE>" code (fun draft code => { draft with code := some code }) readText

/-- The name of a field. -/
def fieldParameter : Parameter TaskDraft :=
  .of "<FIELD>" field (fun draft field => { draft with field := some field })
    (readField "<FIELD>")

/-- The token to be saved. -/
def tokenParameter : Parameter TaskDraft :=
  .of "--token <TOKEN>" (·.change.token)
    (fun draft token => { draft with change := { draft.change with token := some token } })
    readText

/-- Whether unpublished entries are asked for. -/
def unpublishedParameter : Parameter TaskDraft :=
  let label := "--fetch-unpublished <FETCH_UNPUBLISHED>"
  .of label (·.change.unpublished)
    (fun draft unpublished =>
      { draft with change := { draft.change with unpublished := some unpublished } })
    (readName truthOfName? label)

/-- What titles of entries without one start with. -/
def titleStartParameter : Parameter TaskDraft :=
  .of "--empty-title-prefix <EMPTY_TITLE_PREFIX>" (·.change.titleStart)
    (fun draft titleStart =>
      { draft with change := { draft.change with titleStart := some titleStart } })
    readText

end TaskDraft

/-- The arguments of a task, without the task's own name. -/
structure TaskForm where
  name : String
  options : List (Switch TaskDraft)
  positions : List (Parameter TaskDraft)
  complete : TaskDraft → Option Task

namespace TaskForm

/-- The grammar of a task. -/
def grammar (form : TaskForm) : Grammar TaskDraft where
  topic := some form.name
  switches := form.options ++ [helpSwitch]
  positions := form.positions
  commands := []

/-- Reads the arguments of a task. -/
def read (form : TaskForm) (arguments : List String) : Except Refusal Task := do
  match form.complete (← form.grammar.readAll {} arguments) with
  | some task => pure task
  | none => throw .missingArguments

end TaskForm

/-- All tasks. -/
def taskForms : List TaskForm :=
  [⟨"feed", [], [], fun _ => some .feed⟩,
    ⟨"lookup", [], [TaskDraft.codeParameter, TaskDraft.fieldParameter],
      fun draft => .lookup <$> draft.code <*> draft.field⟩,
    ⟨"thumbnail", [], [TaskDraft.codeParameter], fun draft => .thumbnail <$> draft.code⟩,
    ⟨"configure",
      [option "token" TaskDraft.tokenParameter,
        option "fetch-unpublished" TaskDraft.unpublishedParameter,
        option "empty-title-prefix" TaskDraft.titleStartParameter],
      [], fun draft => some (.configure draft.change)⟩]

/-- The word that asks for help on a task. -/
def helpCommand : String := "help"

/-- The words that a task or a request for help starts with. -/
def commandNames : List String :=
  taskForms.map TaskForm.name ++ [helpCommand]

/-- The parameters in front of the task that have been read. -/
structure Draft where
  settings : Option Path := none
  token : Option String := none
  log : Option Log.Destination := none
  verbose : Option Unit := none

namespace Draft

/-- The settings file. -/
def settingsParameter : Parameter Draft :=
  let label := "--settings <SETTINGS>"
  .of label settings (fun draft settings => { draft with settings := some settings })
    (readPath label)

/-- The token that overrides the settings. -/
def tokenParameter : Parameter Draft :=
  .of "--token <TOKEN>" token (fun draft token => { draft with token := some token }) readText

/-- Where records go. -/
def logParameter : Parameter Draft :=
  let label := "--log <LOG>"
  .of label log (fun draft log => { draft with log := some log })
    (readName Log.Destination.ofName? label)

/-- Whether details are reported. -/
def verboseParameter : Parameter Draft :=
  .of "--verbose" verbose (fun draft _ => { draft with verbose := some () }) fun _ => .ok ()

/-- What may stand in front of a task. -/
def grammar : Grammar Draft where
  topic := none
  switches :=
    [option "settings" settingsParameter, option "token" tokenParameter,
      option "log" logParameter, ⟨"verbose", some 'v', .flag verboseParameter⟩, helpSwitch]
  positions := []
  commands := commandNames

/-- Gives a parameter the value of a variable, unless the arguments give it another one. -/
def supply (draft : Draft) (parameter : Parameter Draft) :
    Option String → Except Refusal Draft
  | none => .ok draft
  | some value => if parameter.isGiven draft then .ok draft else parameter.give draft value

/-- Whether nothing is given at all. -/
def isEmpty (draft : Draft) : Bool :=
  draft.settings.isNone && draft.token.isNone && draft.log.isNone && draft.verbose.isNone

/-- The invocation for a task. -/
def complete (draft : Draft) (task : Task) : Invocation :=
  let default : Invocation := { task := task }
  { settings := draft.settings.getD default.settings
    token := draft.token
    log := draft.log.getD default.log
    verbose := draft.verbose.isSome
    task := task }

end Draft

/-- The refusal that a request for help on some words amounts to. -/
def helpOn : List String → Refusal
  | [] => .help none true
  | topic :: rest =>
    if commandNames.contains topic then
      match rest with
      | [] => .help (some topic) true
      | name :: _ => .unknownCommand name
    else .unknownCommand topic

/-- Reads a task from its name and its arguments. -/
def readTask (name : String) (arguments : List String) : Except Refusal Task :=
  match taskForms.find? (·.name == name) with
  | some form => form.read arguments
  | none => .error (helpOn arguments)

/-- Reads the arguments of the program. What is wrong with the task comes before what is wrong with
the last parameter in front of it. -/
def Invocation.read (arguments : List String) (environment : Environment) :
    Except Refusal Invocation := do
  let (reading, command) ← Draft.grammar.scan (Draft.grammar.start {}) arguments
  let task ← command.mapM fun (name, rest) => readTask name rest
  let draft := (← reading.settle).state
  let draft ← draft.supply Draft.settingsParameter environment.settings
  let draft ← draft.supply Draft.tokenParameter environment.token
  match task with
  | some task => pure (draft.complete task)
  | none => throw (if draft.isEmpty then .nothingGiven else .missingCommand)

end QuizFeed.Command
