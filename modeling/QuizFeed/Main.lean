import QuizFeed.Command.Execution
import QuizFeed.Fetch.Download
import Std.Time.DateTime.Timestamp

/-!
# The command line

Runs the program on this machine: effects become operations of the operating system. The machine
reaches no network.
-/

namespace QuizFeed.Machine

open Files

/-- The numbers of the operating system for causes. -/
def causeOfCode? : Nat → Option Cause
  | 2 => some .notFound
  | 16 => some .busy
  | 17 => some .alreadyExists
  | 20 => some .notDirectory
  | 21 => some .isDirectory
  | 22 => some .invalidArgument
  | 36 => some .nameTooLong
  | 39 => some .notEmpty
  | _ => none

/-- The number of an error, which some operations give as a negative word. -/
def errorNumber (code : UInt32) : Nat :=
  if code.toNat < Nat.pow 2 31 then code.toNat else Nat.pow 2 32 - code.toNat

/-- The cause for a number and a text of the operating system. -/
def causeOfCode (code : UInt32) (text : String) : Cause :=
  (causeOfCode? (errorNumber code)).getD
    (.other (text ++ " (os error " ++ toString (errorNumber code) ++ ")"))

/-- Why an operation failed. -/
def causeOf : IO.Error → Cause
  | .alreadyExists _ code text => causeOfCode code text
  | .otherError code text => causeOfCode code text
  | .resourceBusy code text => causeOfCode code text
  | .resourceVanished code text => causeOfCode code text
  | .unsupportedOperation code text => causeOfCode code text
  | .hardwareFault code text => causeOfCode code text
  | .unsatisfiedConstraints code text => causeOfCode code text
  | .illegalOperation code text => causeOfCode code text
  | .protocolError code text => causeOfCode code text
  | .timeExpired code text => causeOfCode code text
  | .interrupted _ code text => causeOfCode code text
  | .noFileOrDirectory _ code text => causeOfCode code text
  | .invalidArgument _ code text => causeOfCode code text
  | .permissionDenied _ code text => causeOfCode code text
  | .resourceExhausted _ code text => causeOfCode code text
  | .inappropriateType _ code text => causeOfCode code text
  | .noSuchThing _ code text => causeOfCode code text
  | .unexpectedEof => .other "failed to fill whole buffer"
  | .userError text => .other text

/-- Runs an operation on the file of a path. -/
def attempt {α : Type} (path : Path) (operation : IO α) : IO (Except Cause α) := do
  if path.text.toList.contains '\x00' then return .error .nullInName
  if path.text = "" then return .error .notFound
  try
    return .ok (← operation)
  catch error =>
    return .error (causeOf error)

/-- The path of a temporary file. -/
def pathOf (temporary : Location) : Path :=
  ⟨"/".intercalate temporary⟩

/-- What the clock shows. -/
def now : IO Time.Instant := do
  let span := (← Std.Time.Timestamp.now).val
  return (Time.Instant.of? span.second.val span.nano.val.toNat).getD .epoch

/-- The kind of what a path leads to: reading fails for directories. -/
def inspect (path : Path) : IO (Except Cause Kind) := do
  match ← attempt path (IO.FS.Handle.mk path.text .read) with
  | .error cause => return .error cause
  | .ok handle =>
    match ← attempt path (handle.read 1) with
    | .error .isDirectory => return .ok .directory
    | _ => return .ok .file

/-- Makes an empty file with a fresh name in a directory, in at most `fuel` attempts. -/
def makeTemporary (directory : Path) : Nat → IO (Except Cause Location)
  | 0 => return .error .alreadyExists
  | fuel + 1 => do
    let name := Disk.temporaryName (← IO.rand 0 1000000000)
    let location := if directory.text = "" then [name] else [directory.text, name]
    match ← attempt (pathOf location) (IO.FS.Handle.mk (pathOf location).text .writeNew) with
    | .ok _ => return .ok location
    | .error .alreadyExists => makeTemporary directory fuel
    | .error cause => return .error cause

/-- Answers an effect on this machine. The memory holds the snapshots kept by the process. -/
def answer (report : Log.Record → IO Unit) (memory : IO.Ref (List (String × Snapshot))) :
    (effect : Effect) → IO effect.Answer
  | .now => now
  | .fetch url => return (Fetch.download .unbuilt {} url).2
  | .log record => report record
  | .retrieve key => return (← memory.get).lookup key
  | .remember key snapshot => memory.modify ((key, snapshot) :: ·)
  | .inspect path => inspect path
  | .readFile path => attempt path (IO.FS.readBinFile path.text)
  | .makeDirectory path => attempt path (IO.FS.createDir path.text)
  | .makeTemporary directory => makeTemporary directory 100
  | .writeTemporary temporary content =>
    attempt (pathOf temporary) (IO.FS.writeBinFile (pathOf temporary).text content)
  | .moveTemporary temporary target =>
    attempt target (IO.FS.rename (pathOf temporary).text target.text)
  | .dropTemporary temporary => do
    let _ ← attempt (pathOf temporary) (IO.FS.removeFile (pathOf temporary).text)

/-- Runs a program on this machine. -/
def run {α : Type} (report : Log.Record → IO Unit)
    (memory : IO.Ref (List (String × Snapshot))) : Program α → IO α
  | .done result => return result
  | .perform effect next => do run report memory (next (← answer report memory effect))

/-- Makes the log file, if there is to be one. -/
def openLog (destination : Log.Destination) : IO (Except Cause (Option IO.FS.Handle)) := do
  if destination.usesFile then
    return (← attempt Log.filePath (IO.FS.Handle.mk Log.filePath.text .write)).map some
  else return .ok none

/-- Writes a record where it belongs, with its time in front. -/
def report (sink : Log.Sink) (file : Option IO.FS.Handle) (record : Log.Record) : IO Unit := do
  if sink.accepts record then
    let line := (← now).write ++ " " ++ record.line
    if sink.terminal then IO.eprint line
    match file with
    | some handle =>
      handle.putStr line
      handle.flush
    | none => return ()

/-- Runs an invocation on this machine. -/
def execute (invocation : Command.Invocation) : IO Command.Ending := do
  let log ← openLog invocation.log
  let file ← match log with
    | .ok file => pure file
    | .error cause => do
      IO.eprintln (Log.fileWarning cause)
      pure none
  let sink := invocation.log.sink invocation.detail log.isOk
  let result ← run (report sink file) (← IO.mkRef []) (Command.run invocation)
  return Command.endingOf result

end QuizFeed.Machine

open QuizFeed in
/-- Runs the program and gives its exit code. -/
def main (arguments : List String) : IO UInt32 := do
  let environment : Command.Environment := {
    settings := ← IO.getEnv "RIDDLE_SETTINGS"
    token := ← IO.getEnv "RIDDLE_TOKEN" }
  let ending ← match Command.Invocation.read arguments environment with
    | .ok invocation => Machine.execute invocation
    | .error refusal => pure (refusal.ending environment)
  IO.print ending.output
  IO.eprint ending.errors
  return ending.exit.toUInt32
