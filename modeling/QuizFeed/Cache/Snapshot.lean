import QuizFeed.Feed.Basic
import QuizFeed.Ron.Document
import QuizFeed.Ron.Printer
import QuizFeed.Time.Text

/-!
# Snapshots of feeds

A snapshot is a feed with the instant at which it stops being served. It is kept in files as a
document, in which entries may stand under keys other than their uids.
-/

namespace QuizFeed

open Ron Time

/-- A feed, and when it stops being served. -/
structure Snapshot where
  feed : Feed
  expiry : Instant
  deriving DecidableEq

namespace Snapshot

/-- Whether a snapshot is still served: its expiry is not reached. -/
def isFresh (snapshot : Snapshot) (now : Instant) : Bool :=
  now.precedes snapshot.expiry

end Snapshot

/-- The name of a status in documents. -/
def Status.name : Status → String
  | .published => "Published"
  | .unpublished => "Unpublished"

/-- Reads the name of a status. -/
def Status.reader : Reader Status :=
  Reader.choice "EntryStatus" (Status.name .published, .published)
    (Status.name .unpublished, .unpublished)

namespace Entry

/-- An entry as a value to be written. -/
def toValue (entry : Entry) : Value :=
  .record [
    ("uid", .string entry.uid),
    ("title", .string entry.title),
    ("status", .word entry.status.name),
    ("image", match entry.image with
      | none => .none
      | some image => .some (.string image))]

/-- The fields of an entry that have been read. -/
structure Partial where
  uid : Option String := none
  title : Option String := none
  status : Option Status := none
  image : Option (Option String) := none

/-- The name of the record of an entry. -/
def recordName : String := "FeedEntry"

/-- An entry, if all its fields but the image have been read. -/
def Partial.complete (read : Partial) : Except Cause Entry := do
  let some uid := read.uid | .error (.missingField "uid" recordName)
  let some title := read.title | .error (.missingField "title" recordName)
  let some status := read.status | .error (.missingField "status" recordName)
  pure { uid := uid, title := title, status := status, image := read.image.getD none }

/-- The fields of an entry. -/
def fields : List (RecordField Partial) :=
  [.of "uid" Partial.uid (fun state uid => { state with uid := some uid }) Reader.string,
    .of "title" Partial.title (fun state title => { state with title := some title })
      Reader.string,
    .of "status" Partial.status (fun state status => { state with status := some status })
      Status.reader,
    .of "image" Partial.image (fun state image => { state with image := some image })
      (Reader.option Reader.string)]

/-- Reads an entry, where values passed over may be `depth` levels deep. -/
def reader (depth : Nat) : Reader Entry :=
  Reader.record recordName depth fields {} Partial.complete

end Entry

namespace Feed

/-- A feed as a value to be written. -/
def toValue (feed : Feed) : Value :=
  .map (feed.pairs.map fun (key, entry) => (key, entry.toValue))

/-- Reads a feed, where values passed over may be `depth` levels deep. -/
def reader (depth : Nat) : Reader Feed :=
  Reader.map (Entry.reader depth) put empty

end Feed

namespace Snapshot

/-- A snapshot as a value to be written. -/
def toValue (snapshot : Snapshot) : Value :=
  .record [("expires_at", .string snapshot.expiry.write), ("feed", snapshot.feed.toValue)]

/-- Reads an instant. -/
def instantReader : Reader Instant := do
  match Instant.read (← Reader.string) with
  | .ok instant => pure instant
  | .error failure => Reader.fail (.rejected failure.message)

/-- The fields of a snapshot that have been read. -/
structure Partial where
  expiry : Option Instant := none
  feed : Option Feed := none

/-- The name of the record of a snapshot. -/
def recordName : String := "PersistedEntry"

/-- A snapshot, if both its fields have been read. -/
def Partial.complete (read : Partial) : Except Cause Snapshot := do
  let some expiry := read.expiry | .error (.missingField "expires_at" recordName)
  let some feed := read.feed | .error (.missingField "feed" recordName)
  pure { feed := feed, expiry := expiry }

/-- The fields of a snapshot. The feed, an entry of it and the fields of that each take two levels
of depth. -/
def fields : List (RecordField Partial) :=
  [.of "expires_at" Partial.expiry (fun state expiry => { state with expiry := some expiry })
      instantReader,
    .of "feed" Partial.feed (fun state feed => { state with feed := some feed })
      (Feed.reader (Reader.depthLimit - 6))]

/-- Reads a snapshot. -/
def reader : Reader Snapshot :=
  Reader.record recordName (Reader.depthLimit - 2) fields {} Partial.complete

/-- The document of a snapshot. -/
def document (snapshot : Snapshot) : String :=
  snapshot.toValue.document

/-- The snapshot that a document holds. -/
def ofDocument (text : String) : Except Ron.Failure Snapshot :=
  Ron.read reader text

end Snapshot
end QuizFeed
