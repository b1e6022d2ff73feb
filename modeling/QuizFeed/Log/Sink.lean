import QuizFeed.Files.Cause
import QuizFeed.Log

/-!
# Where records go

Records are written to the terminal, to a file, or to both, down to some level of detail.
-/

namespace QuizFeed.Log

/-- Where the user wants records to go. -/
inductive Destination where
  | file
  | terminal
  | both
  deriving DecidableEq, Repr

namespace Destination

/-- The destination with a name. -/
def ofName? : String → Option Destination
  | "file" => some file
  | "terminal" => some terminal
  | "both" => some both
  | _ => none

/-- Whether a destination includes the file. -/
def usesFile : Destination → Bool
  | terminal => false
  | file | both => true

/-- Whether a destination includes the terminal. -/
def usesTerminal : Destination → Bool
  | file => false
  | terminal | both => true

end Destination

/-- The path of the log file. -/
def filePath : Path := ⟨"./riddle_feed.log"⟩

/-- Where records really go, and the last level that is written. -/
structure Sink where
  terminal : Bool
  file : Bool
  detail : Level
  deriving DecidableEq, Repr

/-- A record as a line, without its time; in detail it names the thread, which is always the
first one. -/
def Record.line (record : Record) : String :=
  "[" ++ record.level.name ++ "] " ++ (if record.level = .debug then "(1) " else "") ++
    record.origin ++ ": " ++ record.text ++ "\n"

/-- Whether a record is written at all. -/
def Sink.accepts (sink : Sink) (record : Record) : Bool :=
  record.level.rank ≤ sink.detail.rank

/-- The lines of the records that are written. -/
def Sink.lines (sink : Sink) (records : List Record) : String :=
  String.join ((records.filter sink.accepts).map Record.line)

/-- The sink for a destination, when the file could be made or not. -/
def Destination.sink (destination : Destination) (detail : Level) (fileMade : Bool) : Sink where
  terminal := destination.usesTerminal
  file := destination.usesFile && fileMade
  detail := detail

/-- The warning that there is no log file. -/
def fileWarning (cause : Files.Cause) : String :=
  "Warning: Could not create log file at " ++ filePath.quoted ++ ": " ++ cause.message

end QuizFeed.Log
