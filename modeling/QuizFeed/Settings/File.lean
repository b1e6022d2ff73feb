import QuizFeed.Files.Write
import QuizFeed.Settings.Document

/-!
# Settings files

Settings are kept in a file. A missing file stands for the defaults; any other file that cannot be
read is a failure. The cached feeds lie next to the settings file.
-/

namespace QuizFeed.Settings

/-- Why settings are not read or written. -/
inductive FileFailure where
  | unreadable (path : Path) (cause : Files.Cause)
  | malformed (path : Path) (failure : Ron.Failure) (text : String)
  | noFileName (path : Path)
  | unwritable (path : Path) (failure : Files.WriteFailure)
  deriving DecidableEq, Repr

/-- The wording of a failure to write, followed by the cause where that is a failure of its own. -/
def writeText : Files.WriteFailure → String
  | .directory cause => (Files.WriteFailure.directory cause).message
  | .file cause => (Files.WriteFailure.file cause).message ++ ": " ++ cause.message

/-- The wording of a failure. -/
def FileFailure.message : FileFailure → String
  | unreadable path cause => "reading settings from " ++ path.text ++ ": " ++ cause.message
  | malformed path failure text =>
    "parsing settings from " ++ path.text ++ ": " ++ failure.message text.toList
  | noFileName path => "settings path " ++ path.text ++ " has no file name"
  | unwritable path failure => "writing settings to " ++ path.text ++ ": " ++ writeText failure

/-- The part of the program that reports. -/
def origin : String := "riddle_app::persistence"

/-- The directory of a settings file. -/
def directoryOf (path : Path) : Path :=
  (path.parent?.filter fun parent => parent.text != "").getD ⟨"."⟩

/-- The directory of the cached feeds that belong to a settings file. -/
def cacheDirectory (path : Path) : Path :=
  (directoryOf path).child "riddle_cache"

/-- Reads the settings of a file. -/
def load (path : Path) : Program (Except FileFailure Settings) := do
  match ← Program.readText path with
  | .error .notFound =>
    Program.report .debug origin
      ("No settings file at " ++ path.quoted ++ ", using defaults")
    pure (.ok {})
  | .error cause => pure (.error (.unreadable path cause))
  | .ok text =>
    match ofDocument text with
    | .ok settings => pure (.ok settings)
    | .error failure => pure (.error (.malformed path failure text))

/-- Writes settings to a file; the result is the path of the file. Its name is taken over as it is,
since it is text like any path. -/
def save (path : Path) (settings : Settings) : Program (Except FileFailure Path) := do
  match path.fileName? with
  | none => pure (.error (.noFileName path))
  | some name =>
    match ← Program.writeFile (directoryOf path) name settings.document.toUTF8 with
    | .error failure => pure (.error (.unwritable path failure))
    | .ok written =>
      Program.report .info origin ("Saved settings to " ++ written.quoted)
      pure (.ok written)

end QuizFeed.Settings
