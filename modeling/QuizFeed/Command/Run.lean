import QuizFeed.Command.Invocation
import QuizFeed.Feed.Loading
import QuizFeed.Media.Thumbnail
import QuizFeed.Settings.File

/-!
# Running an invocation

A task prints a text. Where the feed is not to be had, a task prints what it can print without it
and says so by its outcome.
-/

namespace QuizFeed.Command

/-- How a task ended. -/
inductive Outcome where
  | success
  | feedUnavailable
  deriving DecidableEq, Repr

/-- Why a task was given up. -/
inductive Failure where
  | settings (failure : Settings.FileFailure)
  | expiryOutOfRange
  deriving DecidableEq, Repr

/-- The wording of a failure. -/
def Failure.message : Failure → String
  | settings failure => failure.message
  | expiryOutOfRange => Feed.LoadFailure.expiryOutOfRange.message

/-- What a task that was not given up leaves: its outcome and the text that it prints. -/
structure Output where
  outcome : Outcome
  text : String
  deriving DecidableEq, Repr

/-- The part of the program that reports. -/
def origin : String := "riddle_app::commands"

/-- A text as a line. -/
def line (text : String) : String :=
  text ++ "\n"

/-- An entry as a line of the list of all entries. -/
def entryLine (entry : Entry) : String :=
  line (entry.uid ++ "\t" ++ toString entry.status.flag ++ "\t" ++ entry.title ++ "\t" ++
    entry.image.getD "-")

/-- The list of all entries. -/
def listing (feed : Feed) : String :=
  String.join (feed.toList.map entryLine)

/-- What a lookup prints: the value as a line, or nothing. -/
def lookupText (feed : Feed) (code : String) (field : Media.Field) (settings : MediaSettings) :
    String :=
  ((Media.value? feed code field settings).map fun value => line value.display).getD ""

/-- The feed, if it is to be had. -/
def loadFeed (settings : Settings) (store : Cache.Store) :
    Program (Except Failure (Option Feed)) := do
  match ← Feed.load settings.feed store with
  | .ok feed => pure (.ok (some feed))
  | .error .expiryOutOfRange => pure (.error .expiryOutOfRange)
  | .error failure =>
    Program.report .error origin ("Feed unavailable: " ++ failure.message)
    pure (.ok none)

/-- How a task ends that looked for a feed. -/
def outcomeOf (feed : Option Feed) : Outcome :=
  if feed.isSome then .success else .feedUnavailable

/-- The path that is shown for the image of a quiz. -/
def thumbnailPath (feed : Feed) (code : String) (settings : MediaSettings) : Program Path := do
  match ← Media.localize feed code settings with
  | .ok found => pure (found.getD settings.defaultImage)
  | .error failure =>
    Program.report .warn origin
      ("Thumbnail for " ++ code ++ " unavailable: " ++ failure.message)
    pure settings.defaultImage

/-- Settings with some of them changed; a blank token stands for none. -/
def Change.apply (change : Change) (settings : FeedSettings) : FeedSettings :=
  { settings with
    token := match change.token with
      | some token => (some token).filter fun token => Text.trim token != ""
      | none => settings.token
    unpublished := change.unpublished.getD settings.unpublished
    titleStart := change.titleStart.getD settings.titleStart }

/-- Saves changed settings. -/
def configure (path : Path) (settings : Settings) (change : Change) :
    Program (Except Failure Output) := do
  match ← Settings.save path { settings with feed := change.apply settings.feed } with
  | .ok written => pure (.ok ⟨.success, line ("saved " ++ written.text)⟩)
  | .error failure => pure (.error (.settings failure))

/-- Runs a task that prints something about the feed. Without the feed it prints what it prints for
an empty one. -/
def withFeed (path : Path) (settings : Settings) (token : Option String)
    (print : Feed → Program String) : Program (Except Failure Output) := do
  let settings := { settings with feed.token := token <|> settings.feed.token }
  match ← loadFeed settings (Cache.fileStore (Settings.cacheDirectory path)) with
  | .error failure => pure (.error failure)
  | .ok feed => pure (.ok ⟨outcomeOf feed, ← print (feed.getD .empty)⟩)

/-- Runs a task with the settings of a file. An identifier is known without the feed. -/
def perform (path : Path) (settings : Settings) (token : Option String) :
    Task → Program (Except Failure Output)
  | .feed => withFeed path settings token fun feed => pure (listing feed)
  | .lookup code .id =>
    pure (.ok ⟨.success, lookupText .empty code .id settings.media⟩)
  | .lookup code field =>
    withFeed path settings token fun feed => pure (lookupText feed code field settings.media)
  | .thumbnail code =>
    withFeed path settings token fun feed => do
      pure (line (← thumbnailPath feed code settings.media).text)
  | .configure change => configure path settings change

/-- Runs an invocation. -/
def run (invocation : Invocation) : Program (Except Failure Output) := do
  match ← Settings.load invocation.settings with
  | .ok settings => perform invocation.settings settings invocation.token invocation.task
  | .error failure => pure (.error (.settings failure))

end QuizFeed.Command
