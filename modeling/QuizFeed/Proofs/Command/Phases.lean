import QuizFeed.Command.Run
import QuizFeed.Proofs.Feed.Calls
import QuizFeed.Proofs.Media.Thumbnail
import QuizFeed.Proofs.Settings.File

/-!
# The phases of a command

A command reads the settings, then it may ask for the feed, and then it prints. Whether a task asks
for the feed is decided by `Task.print?`; a command that does runs as the loading of the feed
followed by `finish` (`perform_eq_finish`). Without a feed, `finish` prints `Task.fallback`
(`run_finish_of_failed`), and in any case it writes nothing but a local copy of an image
(`finish_writes`).
-/

namespace QuizFeed.Command

open Files

/-- What a task prints about the feed, if it asks for it. -/
def Task.print? (settings : MediaSettings) : Task → Option (Feed → Program String)
  | feed => some fun feed => pure (listing feed)
  | lookup _ .id => none
  | lookup code field => some fun feed => pure (lookupText feed code field settings)
  | thumbnail code => some fun feed => do
    pure (line (← thumbnailPath feed code settings).text)
  | configure _ => none

/-- What an invocation asks for the feed with: its own token comes before that of the settings. -/
def Invocation.feedSettings (invocation : Invocation) (settings : Settings) : FeedSettings :=
  { settings.feed with token := invocation.token <|> settings.feed.token }

/-- What a command does once the loading of the feed has ended. -/
def finish (print : Feed → Program String) :
    Except Feed.LoadFailure Feed → Program (Except Failure Output)
  | .ok feed => do pure (.ok ⟨.success, ← print feed⟩)
  | .error .expiryOutOfRange => pure (.error .expiryOutOfRange)
  | .error failure => do
    Program.report .error origin ("Feed unavailable: " ++ failure.message)
    pure (.ok ⟨.feedUnavailable, ← print .empty⟩)

variable {print : Feed → Program String}

/-- A command that needs a feed loads it from the cache beside its settings, and then finishes. -/
theorem withFeed_eq_finish (invocation : Invocation) (settings : Settings)
    (print : Feed → Program String) :
    withFeed invocation.settings settings invocation.token print =
      Feed.load (invocation.feedSettings settings)
        (Cache.fileStore (Settings.cacheDirectory invocation.settings)) >>= finish print := by
  unfold withFeed loadFeed
  dsimp only
  rw [Program.bind_assoc]
  congr
  funext result
  cases result with
  | ok feed => rfl
  | error failure => cases failure <;> rfl

/-- A task that asks for the feed loads it and prints. -/
theorem perform_eq_finish {invocation : Invocation} {settings : Settings}
    (asks : invocation.task.print? settings.media = some print) :
    perform invocation.settings settings invocation.token invocation.task =
      Feed.load (invocation.feedSettings settings)
        (Cache.fileStore (Settings.cacheDirectory invocation.settings)) >>= finish print := by
  cases task : invocation.task with
  | configure change =>
    rw [task] at asks
    cases asks
  | feed | thumbnail =>
    rw [task] at asks
    cases asks
    rw [perform]
    exact withFeed_eq_finish invocation settings _
  | lookup code field =>
    rw [task] at asks
    cases field <;> cases asks <;> rw [perform] <;>
      first | exact withFeed_eq_finish invocation settings _ | exact nofun

/-- A task that does not ask for the feed prints the code that it is given or changes settings. -/
theorem Task.eq_of_print?_eq_none {settings : MediaSettings} {task : Task}
    (silent : task.print? settings = none) :
    (∃ code, task = lookup code .id) ∨ ∃ change, task = configure change := by
  cases task with
  | feed | thumbnail => cases silent
  | configure change => exact .inr ⟨change, rfl⟩
  | lookup code field =>
    cases field <;> first | exact .inl ⟨code, rfl⟩ | cases silent

/-- What a task prints without the feed. -/
def Task.fallback (settings : MediaSettings) : Task → String
  | thumbnail _ => line settings.defaultImage.text
  | _ => ""

variable {ε : Type} (outside : Outside ε) {settings : MediaSettings} {task : Task}

/-- An empty feed is printed without downloads. -/
theorem run_print_empty (asks : task.print? settings = some print) (world : World ε) :
    (print .empty).run outside world = (task.fallback settings, world) ∧
      (print .empty).events outside world = [] := by
  cases task with
  | feed | thumbnail code =>
    cases asks
    exact ⟨rfl, rfl⟩
  | configure change => cases asks
  | lookup code field =>
    have nothing : ∀ field, field ≠ .id → lookupText .empty code field settings = "" := by
      intro field other
      unfold lookupText Media.value?
      by_cases named : code = ""
      · rw [if_pos named]
        rfl
      · rw [if_neg named]
        cases field <;> first | rfl | exact absurd rfl other
    cases field with
    | id => cases asks
    | title | status | thumbnail | localThumbnail =>
      cases asks
      exact ⟨congrArg (·, world) (nothing _ (by decide)), rfl⟩

/-- What is printed leaves the disk as it was, but for what making a local copy of an image does. -/
theorem disk_print (asks : task.print? settings = some print) (feed : Feed) (world : World ε) :
    ((print feed).run outside world).2.disk = world.disk ∨ ∃ code, task = .thumbnail code ∧
      ((print feed).run outside world).2.disk =
        ((Media.localize feed code settings).run outside world).2.disk := by
  cases task with
  | feed =>
    cases asks
    exact .inl rfl
  | configure => cases asks
  | lookup code field => cases field <;> cases asks <;> exact .inl rfl
  | thumbnail code =>
    cases asks
    refine .inr ⟨code, rfl, ?_⟩
    rw [Program.run_bind, Program.run_pure]
    unfold thumbnailPath
    rw [Program.run_bind]
    split <;> rfl

/-- A feed that was loaded is printed. -/
theorem run_finish_of_ok (feed : Feed) (world : World ε) :
    (finish print (.ok feed)).run outside world =
      (.ok ⟨.success, ((print feed).run outside world).1⟩,
        ((print feed).run outside world).2) := by
  rw [finish, Program.run_bind, Program.run_pure]

/-- A failure of the feed that is not one of the clock is reported, and the fallback is printed. -/
theorem run_finish_of_failed (asks : task.print? settings = some print)
    {failure : Feed.LoadFailure} (limited : failure ≠ .expiryOutOfRange) (world : World ε) :
    (finish print (.error failure)).run outside world =
        (.ok ⟨.feedUnavailable, task.fallback settings⟩, { world with
          records := world.records ++
            [⟨.error, origin, "Feed unavailable: " ++ failure.message⟩] }) ∧
      (finish print (.error failure)).events outside world = [] := by
  have reports : finish print (.error failure) = (do
      Program.report .error origin ("Feed unavailable: " ++ failure.message)
      pure (.ok ⟨.feedUnavailable, ← print .empty⟩)) := by
    cases failure with
    | expiryOutOfRange => exact absurd rfl limited
    | missingToken | transport | malformed => rfl
  rw [reports, Program.run_bind, Program.run_report, Program.events_bind, Program.events_report,
    Program.run_bind, Program.events_bind]
  obtain ⟨printed, silent⟩ := run_print_empty outside asks
    { world with records := world.records ++
      [⟨.error, origin, "Feed unavailable: " ++ failure.message⟩] }
  rw [printed, Program.run_report, silent]
  exact ⟨rfl, rfl⟩

/-- What follows the loading of the feed leaves the disk as it was, but for what making a local copy
of an image does. -/
theorem disk_finish (asks : task.print? settings = some print)
    (result : Except Feed.LoadFailure Feed) (world : World ε) :
    ((finish print result).run outside world).2.disk = world.disk ∨
      ∃ feed code, result = .ok feed ∧ task = .thumbnail code ∧
        ((finish print result).run outside world).2.disk =
          ((Media.localize feed code settings).run outside world).2.disk := by
  cases result with
  | ok feed =>
    rw [run_finish_of_ok]
    refine (disk_print outside asks feed world).imp_right ?_
    rintro ⟨code, thumbnail, same⟩
    exact ⟨feed, code, rfl, thumbnail, same⟩
  | error failure =>
    by_cases clock : failure = .expiryOutOfRange
    · subst clock
      exact .inl rfl
    · rw [(run_finish_of_failed outside asks clock world).1]
      exact .inl rfl

/-- What follows the loading of the feed leaves the disk as it was, but for a local copy of an
image. -/
theorem finish_writes (asks : task.print? settings = some print)
    (result : Except Feed.LoadFailure Feed) (world : World ε) :
    ((finish print result).run outside world).2.disk = world.disk ∨
      ∃ feed code target, result = .ok feed ∧ task = .thumbnail code ∧
        Media.target? feed code settings = some target ∧
        world.disk.Writes (world.disk.Waypoint settings.images) (world.disk.destination target)
          ((finish print result).run outside world).2.disk := by
  rcases disk_finish outside asks result world with same | ⟨feed, code, loaded, thumbnail, same⟩
  · exact .inl same
  · rw [same]
    cases found : Media.target? feed code settings with
    | none =>
      rw [Media.run_localize_of_none outside found]
      exact .inl rfl
    | some target =>
      exact .inr ⟨feed, code, target, loaded, thumbnail, found,
        Media.localize_writes outside found world⟩

end QuizFeed.Command
