import QuizFeed.Cache.Key
import QuizFeed.Files.Write

/-!
# Cache stores

A store keeps a snapshot for a key. The memory store lasts as long as the process; the file store
keeps one document for each key in a directory. Whatever is wrong with a file, the file store
answers as if the file were missing and reports why.
-/

namespace QuizFeed.Cache

/-- A place where snapshots are kept. -/
structure Store where
  get : String → Program (Option Snapshot)
  set : String → Snapshot → Program Unit

/-- The store in memory. -/
def memoryStore : Store where
  get := Program.retrieve
  set := Program.remember

/-- The part of the library that reports. -/
def origin : String := "riddle_engine::store"

/-- The path of the file for a key. -/
def filePath (directory : Path) (key : String) : Path :=
  directory.child (fileName key)

/-- Reads the snapshot of a key from a directory. -/
def load (directory : Path) (key : String) : Program (Option Snapshot) := do
  let path := filePath directory key
  match ← Program.readText path with
  | .error .notFound => pure none
  | .error cause =>
    Program.report .warn origin
      ("Failed to read feed cache " ++ path.quoted ++ ": " ++ cause.message)
    pure none
  | .ok text =>
    match Snapshot.ofDocument text with
    | .ok snapshot =>
      Program.report .debug origin ("Loaded feed cache " ++ path.quoted)
      pure (some snapshot)
    | .error failure =>
      Program.report .warn origin
        ("Ignoring corrupt feed cache " ++ path.quoted ++ ": " ++ failure.message text.toList)
      pure none

/-- Writes the snapshot of a key to a directory. -/
def save (directory : Path) (key : String) (snapshot : Snapshot) : Program Unit := do
  match ← Program.writeFile directory (fileName key) snapshot.document.toUTF8 with
  | .ok _ => pure ()
  | .error failure =>
    Program.report .warn origin
      ("Failed to write feed cache to " ++ directory.quoted ++ ": " ++ failure.message)

/-- The store in a directory. -/
def fileStore (directory : Path) : Store where
  get := load directory
  set := save directory

end QuizFeed.Cache
