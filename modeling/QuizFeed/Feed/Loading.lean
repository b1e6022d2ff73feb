import QuizFeed.Cache.Store
import QuizFeed.Feed.Projection
import QuizFeed.Json.Reader
import QuizFeed.Settings.Basic

/-!
# Loading the feed

The feed of a token is downloaded at most once in a while: for half a minute after a download the
snapshot of it is served. A failed download is a failure of the whole; an old snapshot is never
served in its place.
-/

namespace QuizFeed.Feed

/-- Why there is no feed. -/
inductive LoadFailure where
  | missingToken
  | transport (failure : Fetch.Failure)
  | malformed (failure : Json.Failure) (body : List UInt8)
  | expiryOutOfRange
  deriving DecidableEq, Repr

/-- The wording of a failure. -/
def LoadFailure.message : LoadFailure → String
  | missingToken => "no riddle token configured"
  | transport failure => "transport error: " ++ failure.message
  | malformed failure body => "malformed response: " ++ failure.message body
  | expiryOutOfRange => "expiry out of range"

/-- The number of seconds for which a downloaded feed is served. -/
def lifetime : Nat := 30

/-- The part of the library that reports. -/
def origin : String := "riddle_engine::service"

/-- The JSON value that a reply holds. -/
def valueOfReply : Fetch.Reply → Except LoadFailure Json.Value
  | .error failure => .error (.transport failure)
  | .ok body =>
    match Json.read body.data.toList with
    | .ok value => .ok value
    | .error failure => .error (.malformed failure body.data.toList)

/-- Keeps a feed that has just been downloaded. -/
def keep (store : Cache.Store) (token : String) (feed : Feed) :
    Program (Except LoadFailure Feed) := do
  match (← Program.now).later? lifetime with
  | none => pure (.error .expiryOutOfRange)
  | some expiry =>
    store.set (Cache.keyOf token) { feed := feed, expiry := expiry }
    Program.report .info origin
      ("Cached " ++ toString feed.size ++ " feed entries until " ++ expiry.display)
    pure (.ok feed)

/-- Downloads the feed of a token and keeps it. -/
def download (settings : FeedSettings) (store : Cache.Store) (token : String) :
    Program (Except LoadFailure Feed) := do
  Program.report .info origin
    ("Feed cache miss for token " ++ Log.redact token ++ ", fetching")
  match valueOfReply (← Program.fetch (settings.addressFor token)) with
  | .error failure =>
    Program.report .warn origin
      ("Feed fetch failed for token " ++ Log.redact token ++ ": " ++ failure.message)
    pure (.error failure)
  | .ok value =>
    let projection := Projection.ofValue settings.titleStart value
    if projection.skipped > 0 then
      Program.report .debug origin
        ("Skipped " ++ toString projection.skipped ++ " invalid feed entries")
    keep store token projection.feed

/-- The feed that the settings ask for: the snapshot of it while that is fresh, and else a new
download. -/
def load (settings : FeedSettings) (store : Cache.Store) :
    Program (Except LoadFailure Feed) := do
  match settings.usableToken with
  | none => pure (.error .missingToken)
  | some token =>
    let now ← Program.now
    match (← store.get (Cache.keyOf token)).filter (·.isFresh now) with
    | some snapshot =>
      Program.report .debug origin ("Feed cache hit for token " ++ Log.redact token)
      pure (.ok snapshot.feed)
    | none => download settings store token

end QuizFeed.Feed
