import QuizFeed.Program

/-!
# Writing files

A file is written as a whole: its content goes into a temporary file of the same directory, which
then takes the place of what was there. When something fails, the temporary file is removed and the
old content stays.
-/

namespace QuizFeed

namespace Files

/-- Why a file has not been written. -/
inductive WriteFailure where
  | directory (cause : Cause)
  | file (cause : Cause)
  deriving DecidableEq, Repr

/-- The wording of a failure to write. -/
def WriteFailure.message : WriteFailure → String
  | directory cause => "output directory missing or not writable: " ++ cause.message
  | file cause => "io error: " ++ cause.message

/-- What is wrong with a directory that is a file. -/
def blocked : Cause :=
  .other "path is not a directory"

end Files

namespace Program

open Files

/-- The answer of making a directory, unless the directory is there all the same. -/
def settleDirectory (path : Path) (answer : Except Cause Unit) : Program (Except Cause Unit) := do
  match answer with
  | .ok () => pure (.ok ())
  | .error cause =>
    match ← inspect path with
    | .ok .directory => pure (.ok ())
    | _ => pure (.error cause)

/-- Makes a directory and the directories above it that are missing. -/
def makeDirectories (path : Path) : Program (Except Cause Unit) := do
  if path.text = "" then pure (.ok ())
  else
    match ← makeDirectory path with
    | .error .notFound =>
      match _above : path.parent? with
      | none => pure (.error (.other "failed to create whole tree"))
      | some parent =>
        match ← makeDirectories parent with
        | .ok () => settleDirectory path (← makeDirectory path)
        | .error cause => pure (.error cause)
    | answer => settleDirectory path answer
termination_by path.text.toList.length
decreasing_by exact Path.length_parent? _above

/-- Makes sure that a directory is there. -/
def ensureDirectory (path : Path) : Program (Except WriteFailure Unit) := do
  match ← inspect path with
  | .ok .directory => pure (.ok ())
  | .ok .file => pure (.error (.directory blocked))
  | .error _ =>
    match ← makeDirectories path with
    | .ok () => pure (.ok ())
    | .error cause => pure (.error (.directory cause))

/-- Fills a temporary file and gives it its final place. -/
def finishTemporary (temporary : Location) (target : Path) (content : ByteArray) :
    Program (Except Cause Unit) := do
  match ← writeTemporary temporary content with
  | .ok () => moveTemporary temporary target
  | .error cause => pure (.error cause)

/-- Writes a file with some name into a directory, which is made if it is missing. The result is
the path of the file. -/
def writeFile (directory : Path) (name : String) (content : ByteArray) :
    Program (Except WriteFailure Path) := do
  match ← ensureDirectory directory with
  | .error failure => pure (.error failure)
  | .ok () =>
    match ← makeTemporary directory with
    | .error cause => pure (.error (.file cause))
    | .ok temporary =>
      let target := directory.child name
      match ← finishTemporary temporary target content with
      | .ok () => pure (.ok target)
      | .error cause =>
        dropTemporary temporary
        pure (.error (.file cause))

end Program
end QuizFeed
