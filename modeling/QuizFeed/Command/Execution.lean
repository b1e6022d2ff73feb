import QuizFeed.Command.Help
import QuizFeed.Command.Run

/-!
# Executions

From arguments and environment to the exit code, the two output texts and the files that are left.
-/

namespace QuizFeed.Command

/-- What an execution leaves behind besides files. -/
structure Ending where
  exit : Nat
  output : String
  errors : String
  deriving DecidableEq, Repr

/-- The ending of a command line that is not run. -/
def Refusal.ending (environment : Environment) : Refusal → Ending
  | help topic inFull => ⟨0, Help.text environment topic inFull, ""⟩
  | nothingGiven => ⟨2, "", Help.text environment none false⟩
  | refusal => ⟨2, "", refusal.message ++ "\n\nFor more information, try '--help'.\n"⟩

/-- How detailed the log of an invocation is. -/
def Invocation.detail (invocation : Invocation) : Log.Level :=
  if invocation.verbose then .debug else .info

/-- The ending of a task. -/
def endingOf : Except Failure Output → Ending
  | .ok ⟨.success, text⟩ => ⟨0, text, ""⟩
  | .ok ⟨.feedUnavailable, text⟩ =>
    ⟨1, text, programName ++ ": feed unavailable, showing fallback\n"⟩
  | .error failure => ⟨1, "", programName ++ ": " ++ failure.message ++ "\n"⟩

/-- The log file as it is while a task runs: its location, and what its creation failed with. -/
def openLog (invocation : Invocation) (disk : Files.Disk) :
    Except Files.Cause (Option Files.Location) × Files.Disk :=
  if invocation.log.usesFile then
    match disk.createFile Log.filePath with
    | .ok (location, disk) => (.ok (some location), disk)
    | .error cause => (.error cause, disk)
  else (.ok none, disk)

/-- Writes lines to the log file, unless another file has taken its place. -/
def writeLog (location : Files.Location) (lines : String) (disk : Files.Disk) : Files.Disk :=
  match disk.node? location with
  | some (.file content) =>
    if content.isEmpty then disk.put location (.file lines.toUTF8) else disk
  | _ => disk

variable {ε : Type}

/-- Runs an invocation in a world, with its log. -/
def Invocation.execute (invocation : Invocation) (outside : Outside ε) (world : World ε) :
    Ending × World ε :=
  let (logFile, disk) := openLog invocation world.disk
  let warning := match logFile with
    | .ok _ => ""
    | .error cause => Log.fileWarning cause ++ "\n"
  let (result, world) :=
    (run invocation).run outside { world with disk := disk, records := [] }
  let sink := invocation.log.sink invocation.detail logFile.isOk
  let lines := sink.lines world.records
  let ending := endingOf result
  let errors := warning ++ (if sink.terminal then lines else "") ++ ending.errors
  let disk := match logFile with
    | .ok (some location) => writeLog location lines world.disk
    | _ => world.disk
  ({ ending with errors := errors }, { world with disk := disk })

/-- Runs the program in a world. -/
def execute (arguments : List String) (environment : Environment) (outside : Outside ε)
    (world : World ε) : Ending × World ε :=
  match Invocation.read arguments environment with
  | .ok invocation => invocation.execute outside world
  | .error refusal => (refusal.ending environment, world)

end QuizFeed.Command
