import Mathlib.Data.List.Chain
import QuizFeed.Proofs.Command.Attempts
import QuizFeed.Proofs.Feed.Rate

/-!
# The window across commands

Commands with one settings file share the directory of cached feeds. A feed that one of them
downloads is what the others work on for half a minute, and the first one behind it downloads again
(`Session.served_in_window`). Look-ups of identifiers stay away from the feed and from the disk;
changes of settings add nothing to the cached feeds but directories on the way to the settings file
(`Session.spares_of_configure`), and none where that file is there
(`Attempt.isDirectory_of_configure`).
-/

namespace QuizFeed

namespace Command

open Files Cache Time

variable {ε : Type} {outside : Outside ε} {path : Path} {attempts : List (Attempt ε)}

/-- The command makes a call for the feed of a token. -/
structure Attempt.Asks (outside : Outside ε) (attempt : Attempt ε) (token : String)
    (asked : Consultation ε) : Prop where
  consulted : attempt.consultation? outside = some asked
  usable : asked.call.settings.usableToken = some token

/-- The keys of the tokens that commands call for. -/
def keysOf (outside : Outside ε) (attempts : List (Attempt ε)) (key : String) : Prop :=
  ∃ attempt ∈ attempts, ∃ token asked, attempt.Asks outside token asked ∧ key = keyOf token

/-- Commands with one settings file, one after the other. -/
structure Session (outside : Outside ε) (path : Path) (attempts : List (Attempt ε)) : Prop where
  samePath : ∀ attempt ∈ attempts, attempt.invocation.settings = path
  /-- The clock never goes back. -/
  steady : (attempts.flatMap fun attempt => (attempt.events outside).filterMap
    Event.instant?).Pairwise fun earlier later => later.precedes earlier = false
  /-- Nothing but the commands changes what is cached. -/
  undisturbed : ∀ earlier first second later, attempts = earlier ++ first :: second :: later →
    ∀ key, fileContents (Settings.cacheDirectory path) second.world.disk key =
      fileContents (Settings.cacheDirectory path) (first.ended outside).disk key
  /-- The directory of cached feeds can be written, before and after every command. -/
  writable : ∀ attempt ∈ attempts,
    Writable (Settings.cacheDirectory path) (keysOf outside attempts) attempt.world.disk ∧
      Writable (Settings.cacheDirectory path) (keysOf outside attempts)
        (attempt.ended outside).disk
  elsewhere : ∀ attempt ∈ attempts, attempt.ImagesElsewhere outside
  /-- No two tokens share the name of a file. -/
  apart : ∀ first ∈ attempts, ∀ second ∈ attempts, ∀ {token other asked askedOther},
    first.Asks outside token asked → second.Asks outside other askedOther →
    fingerprint (keyOf token) = fingerprint (keyOf other) → token = other

/-- The token of the call of a command, if it makes one for a token. -/
def Attempt.token? (outside : Outside ε) (attempt : Attempt ε) : Option String :=
  (attempt.consultation? outside).bind fun asked => asked.call.settings.usableToken

/-- A command with a token asks for the feed of that token. -/
theorem Attempt.asks_of_token? {attempt : Attempt ε} {token : String}
    (found : attempt.token? outside = some token) :
    ∃ asked, attempt.Asks outside token asked := by
  obtain ⟨asked, consulted, usable⟩ := Option.bind_eq_some_iff.mp found
  exact ⟨asked, consulted, usable⟩

/-- A command that asks for the feed of a token has that token. -/
theorem Attempt.Asks.token?_eq {attempt : Attempt ε} {token : String} {asked : Consultation ε}
    (asks : attempt.Asks outside token asked) : attempt.token? outside = some token := by
  unfold Attempt.token?
  rw [asks.consulted]
  exact asks.usable

/-- Commands that start where the one before ends are a session, if they call for one token at most
and copy no images. -/
theorem session_of_isChain {token : String}
    (samePath : ∀ attempt ∈ attempts, attempt.invocation.settings = path)
    (steady : (attempts.flatMap fun attempt => (attempt.events outside).filterMap
      Event.instant?).Pairwise fun earlier later => later.precedes earlier = false)
    (chain : attempts.IsChain fun first second =>
      second.world.disk = (first.ended outside).disk)
    (tokens : ∀ attempt ∈ attempts,
      attempt.token? outside = none ∨ attempt.token? outside = some token)
    (writable : ∀ attempt ∈ attempts,
      ∀ disk ∈ [attempt.world.disk, (attempt.ended outside).disk],
        Writable (Settings.cacheDirectory path) (· = keyOf token) disk)
    (noImages : ∀ attempt ∈ attempts, ∀ code, attempt.invocation.task ≠ .thumbnail code) :
    Session outside path attempts := by
  have only : ∀ attempt ∈ attempts, ∀ {other asked}, attempt.Asks outside other asked →
      other = token := by
    intro attempt member other asked asks
    have isToken := tokens attempt member
    rw [asks.token?_eq] at isToken
    exact Option.some.inj (isToken.resolve_left nofun)
  have keys : ∀ key, keysOf outside attempts key → key = keyOf token := by
    rintro key ⟨attempt, member, other, asked, asks, rfl⟩
    rw [only attempt member asks]
  refine ⟨samePath, steady, ?_, fun attempt member => ?_, ?_, ?_⟩
  · rintro earlier first second later rfl key
    rw [(List.isChain_append_cons_cons.mp chain).2.1]
  · exact ⟨(writable attempt member _ (by simp)).mono keys,
      (writable attempt member _ (by simp)).mono keys⟩
  · exact fun attempt member _ code _ task => absurd task (noImages attempt member code)
  · intro first memberFirst second memberSecond _ _ _ _ asks asksOther _
    rw [only first memberFirst asks, only second memberSecond asksOther]

/-- A reading of the clock in the call for a feed is one of the command. -/
theorem Attempt.reading_mem {attempt : Attempt ε} {asked : Consultation ε} {instant : Instant}
    (consulted : attempt.consultation? outside = some asked)
    (reading : .reading instant ∈ asked.call.events) :
    instant ∈ (attempt.events outside).filterMap Event.instant? := by
  refine List.mem_filterMap.mpr ⟨.reading instant, ?_, rfl⟩
  rw [(Attempt.run_of_consultation? consulted).2]
  exact List.mem_append_left _ reading

/-- The instant at which the call for a feed starts is one that the command reads. -/
theorem Attempt.start_mem {attempt : Attempt ε} {asked : Consultation ε} {start : Instant}
    (consulted : attempt.consultation? outside = some asked) (starts : asked.call.StartsAt start) :
    start ∈ (attempt.events outside).filterMap Event.instant? :=
  reading_mem consulted (List.mem_of_head? starts)

/-- Where the clock never goes back, calls start in the order of their commands. -/
theorem starts_in_order
    (steady : (attempts.flatMap fun attempt => (attempt.events outside).filterMap
      Event.instant?).Pairwise fun earlier later => later.precedes earlier = false)
    {earlier later : List (Attempt ε)} {second other : Attempt ε}
    (split : attempts = earlier ++ second :: later) (before : other ∈ earlier)
    {asked askedOther : Consultation ε} {start startOther : Instant}
    (consulted : second.consultation? outside = some asked) (starts : asked.call.StartsAt start)
    (consultedOther : other.consultation? outside = some askedOther)
    (startsOther : askedOther.call.StartsAt startOther) : start.precedes startOther = false := by
  rw [split, List.flatMap_append, List.pairwise_append] at steady
  refine steady.2.2 startOther ?_ start ?_
  · exact List.mem_flatMap.mpr ⟨other, before, Attempt.start_mem consultedOther startsOther⟩
  · exact List.mem_flatMap.mpr
      ⟨second, List.mem_cons_self, Attempt.start_mem consulted starts⟩

/-- A cached feed is still cached when a later command starts, if nothing else touches it and the
calls in between that would find it come while it is fresh. -/
theorem kept_between {directory : Path} {key : String} {snapshot : Snapshot}
    {earlier between later : List (Attempt ε)} {first second : Attempt ε}
    (sameDirectory : ∀ attempt ∈ attempts, attempt.directory = directory)
    (undisturbed : ∀ earlier first second later, attempts = earlier ++ first :: second :: later →
      fileContents directory second.world.disk key =
        fileContents directory (first.ended outside).disk key)
    (elsewhere : ∀ attempt ∈ attempts, attempt.CopiesElsewhere outside)
    (split : attempts = earlier ++ first :: between ++ second :: later)
    (kept : fileContents directory (first.ended outside).disk key = some snapshot)
    (early : ∀ other ∈ between, ∀ asked token start, other.consultation? outside = some asked →
      asked.call.settings.usableToken = some token → fingerprint (keyOf token) = fingerprint key →
      asked.call.StartsAt start → snapshot.isFresh start = true) :
    fileContents directory second.world.disk key = some snapshot := by
  induction between generalizing earlier first with
  | nil =>
    rw [undisturbed earlier first second later (by simpa using split)]
    exact kept
  | cons next rest inductionHypothesis =>
    have member : next ∈ attempts := by simp [split]
    obtain ⟨earlyNext, earlyRest⟩ := List.forall_mem_cons.mp early
    have splitNext : attempts = (earlier ++ [first]) ++ next :: rest ++ second :: later := by
      simpa using split
    refine inductionHypothesis splitNext ?_ earlyRest
    rw [← sameDirectory next member] at undisturbed kept ⊢
    refine Attempt.kept (elsewhere next member) ?_ earlyNext
    rw [undisturbed earlier first next (rest ++ second :: later) (by simpa using split)]
    exact kept

namespace Session

variable {earlier between later : List (Attempt ε)} {first second : Attempt ε} {token : String}
  {snapshot : Snapshot}

/-- All commands of a session keep cached feeds in the directory that belongs to its path. -/
theorem directory_eq (session : Session outside path attempts) {attempt : Attempt ε}
    (member : attempt ∈ attempts) : attempt.directory = Settings.cacheDirectory path := by
  unfold Attempt.directory
  rw [session.samePath attempt member]

/-- Calls start in the order of their commands. -/
theorem in_order (session : Session outside path attempts)
    (split : attempts = earlier ++ second :: later) {other : Attempt ε} (before : other ∈ earlier)
    {otherToken : String} {asked askedOther : Consultation ε} {start startOther : Instant}
    (asks : second.Asks outside token asked) (starts : asked.call.StartsAt start)
    (asksOther : other.Asks outside otherToken askedOther)
    (startsOther : askedOther.call.StartsAt startOther) : start.precedes startOther = false :=
  starts_in_order session.steady split before asks.consulted starts asksOther.consulted startsOther

/-- A cached feed is still cached when a later command starts, if the calls for its token in between
come while it is fresh. -/
theorem kept_through (session : Session outside path attempts)
    (split : attempts = earlier ++ first :: between ++ second :: later)
    (known : ∃ attempt ∈ attempts, ∃ asked, attempt.Asks outside token asked)
    (kept : fileContents (Settings.cacheDirectory path) (first.ended outside).disk (keyOf token) =
      some snapshot)
    (early : ∀ other ∈ between, ∀ asked start, other.Asks outside token asked →
      asked.call.StartsAt start → snapshot.isFresh start = true) :
    fileContents (Settings.cacheDirectory path) second.world.disk (keyOf token) =
      some snapshot := by
  refine kept_between (fun attempt => session.directory_eq)
    (fun earlier first second later split => session.undisturbed earlier first second later split _)
    (fun attempt member => (session.elsewhere attempt member).copiesElsewhere) split kept ?_
  intro other member asked own start consulted usable same starts
  obtain ⟨attempt, memberToken, askedToken, asks⟩ := known
  have inside : other ∈ attempts := by simp [split, member]
  obtain rfl := session.apart other inside attempt memberToken ⟨consulted, usable⟩ asks same
  exact early other member asked start ⟨consulted, usable⟩ starts

/-- The window of a download: a later call for the same token is served with the feed while the
window lasts, and the first one behind it downloads once. -/
theorem served_in_window (session : Session outside path attempts)
    (split : attempts = earlier ++ first :: between ++ second :: later)
    {source asked : Consultation ε} {feed : Feed} {finish : Instant}
    (asksFirst : first.Asks outside token source) (downloaded : source.call.Downloaded feed finish)
    (asksSecond : second.Asks outside token asked) :
    ∃ expiry start, finish.later? 30 = some expiry ∧ asked.call.StartsAt start ∧
      (start.precedes expiry = true →
        asked.call.requests = 0 ∧ asked.call.result = .ok feed) ∧
      (start.precedes expiry = false →
        (∀ other ∈ between, ∀ askedOther startOther, other.Asks outside token askedOther →
          askedOther.call.StartsAt startOther → startOther.precedes expiry = true) →
        asked.call.requests = 1) := by
  have memberFirst : first ∈ attempts := by simp [split]
  have memberSecond : second ∈ attempts := by simp [split]
  have directoryFirst := session.directory_eq memberFirst
  have directorySecond := session.directory_eq memberSecond
  have writable := (session.writable first memberFirst).1.mono
    (fun key (same : key = keyOf token) => ⟨first, memberFirst, token, source, asksFirst, same⟩)
  rw [← directoryFirst] at writable
  obtain ⟨expiry, limited, stored⟩ :=
    Attempt.stored_of_downloaded asksFirst.consulted writable asksFirst.usable downloaded
  have kept := Attempt.preserves_finish
    (session.elsewhere first memberFirst).copiesElsewhere asksFirst.consulted
    (keyOf token) _ stored
  rw [directoryFirst] at kept
  obtain ⟨put, loads, _⟩ := Attempt.loads_of_consultation? asksSecond.consulted
  obtain ⟨start, starts⟩ := loads.starts asksSecond.usable
  have known : ∃ attempt ∈ attempts, ∃ asked, attempt.Asks outside token asked :=
    ⟨first, memberFirst, source, asksFirst⟩
  refine ⟨expiry, start, limited, starts, fun inside => ?_, fun behind early => ?_⟩
  · have keptSecond := session.kept_through split known kept
      fun other member askedOther startOther asksOther startsOther =>
        Instant.precedes_of_not_precedes
          (session.in_order split (by simp [member]) asksSecond starts asksOther startsOther) inside
    rw [← directorySecond] at keptSecond
    obtain ⟨sameStart, startsSame, served, _⟩ := loads.of_kept asksSecond.usable keptSecond
    rw [starts] at startsSame
    cases startsSame
    obtain ⟨happened, answered, _⟩ := served inside
    unfold Feed.Call.requests
    rw [happened]
    exact ⟨rfl, answered⟩
  · have keptSecond := session.kept_through split known kept early
    rw [← directorySecond] at keptSecond
    obtain ⟨sameStart, startsSame, _, downloads⟩ := loads.of_kept asksSecond.usable keptSecond
    rw [starts] at startsSame
    cases startsSame
    exact downloads behind

/-- A change of settings leaves the directory of cached feeds as it is, but for directories on the
way to the settings file. -/
theorem spares_of_configure (session : Session outside path attempts) {attempt : Attempt ε}
    (member : attempt ∈ attempts) {change : Change}
    (task : attempt.invocation.task = .configure change) {location : Location}
    (inside : attempt.world.disk.destination (Settings.cacheDirectory path) <+: location) :
    (attempt.ended outside).disk.node? location = attempt.world.disk.node? location ∨
      attempt.world.disk.Waypoint (Settings.directoryOf path) location ∧
        attempt.world.disk.node? location = none ∧
        (attempt.ended outside).disk.node? location = some .directory := by
  have written := Attempt.run_of_configure outside task
  rw [session.samePath attempt member] at written
  obtain ⟨_, name, writes⟩ := written
  by_cases target : location =
      attempt.world.disk.destination (Settings.directoryOf path) ++ [name]
  case neg => exact writes.nodes target
  case pos =>
    -- The settings file would take the place of the directory, so it was not written.
    have whole : attempt.world.disk.destination (Settings.cacheDirectory path) = location := by
      refine inside.eq_of_length ?_
      rw [target, Settings.destination_cacheDirectory]
      simp
    have working := writes.keepsDirectories.working
    obtain ⟨prepared, grows, alike | ⟨content, holds⟩⟩ := writes
    · rw [alike.node?_eq]
      exact grows.nodes location
    · have noFile := (session.writable attempt member).2.node?_ne_file content
      rw [Disk.destination_of_working working, whole, holds.node?_eq, if_pos target] at noFile
      exact absurd rfl noFile

/-- What commands with one settings file have to do with the feed and with what is cached. A feed
that one of them downloads is what a later one for the same token works on, without a download of
the feed, if it starts before half a minute has passed since the end of that download; the first
one that starts later downloads the feed once. Look-ups of identifiers ask for nothing and leave
the disk as it is. Changes of settings ask for nothing, and all that they add to the directory of
cached feeds are directories on the way to the settings file, where that file is missing: where it
is there they make no directory at all (`Attempt.isDirectory_of_configure`). -/
theorem window_across_commands (session : Session outside path attempts) :
    (∀ earlier first between second later token source asked feed finish,
      attempts = earlier ++ first :: between ++ second :: later →
      first.Asks outside token source → source.call.Downloaded feed finish →
      second.Asks outside token asked →
      ∃ expiry start, finish.later? 30 = some expiry ∧ asked.call.StartsAt start ∧
        second.events outside = asked.call.events ++
          (Command.finish asked.print asked.call.result).events outside asked.world ∧
        (start.precedes expiry = true → asked.call.requests = 0 ∧
          (run second.invocation).run outside second.world =
            (Command.finish asked.print (.ok feed)).run outside asked.world) ∧
        (start.precedes expiry = false →
          (∀ other ∈ between, ∀ askedOther startOther, other.Asks outside token askedOther →
            askedOther.call.StartsAt startOther → startOther.precedes expiry = true) →
          asked.call.requests = 1)) ∧
    (∀ attempt ∈ attempts, ∀ code, attempt.invocation.task = .lookup code .id →
      attempt.events outside = [] ∧ (attempt.ended outside).disk = attempt.world.disk) ∧
    (∀ attempt ∈ attempts, ∀ change, attempt.invocation.task = .configure change →
      attempt.events outside = [] ∧ ∀ location,
        attempt.world.disk.destination (Settings.cacheDirectory path) <+: location →
        (attempt.ended outside).disk.node? location = attempt.world.disk.node? location ∨
          attempt.world.disk.Waypoint (Settings.directoryOf path) location ∧
            attempt.world.disk.node? location = none ∧
            (attempt.ended outside).disk.node? location = some .directory) := by
  refine ⟨?_, fun attempt _ code task => ?_, fun attempt member change task => ?_⟩
  · intro earlier first between second later token source asked feed finish split asksFirst
      downloaded asksSecond
    obtain ⟨expiry, start, limited, starts, inside, behind⟩ :=
      session.served_in_window split asksFirst downloaded asksSecond
    obtain ⟨runs, happens⟩ := Attempt.run_of_consultation? asksSecond.consulted
    refine ⟨expiry, start, limited, starts, happens, fun before => ?_, behind⟩
    obtain ⟨silent, answered⟩ := inside before
    rw [runs, answered]
    exact ⟨silent, rfl⟩
  · exact (Attempt.run_of_lookup_id task).symm
  · exact ⟨(Attempt.run_of_configure outside task).1,
      fun location inside => session.spares_of_configure member task inside⟩

end Session

/-- A change of settings may add to the directory of cached feeds, or make it: where there is no
settings file yet, and the way to its place leads through the directory, which is missing. -/
theorem configure_on_the_way :
    let path : Path := ⟨"riddle_cache/../s.ron"⟩
    let attempt : Attempt Unit :=
      ⟨{ settings := path, task := .configure {} }, ⟨⟨[], [], []⟩, [], [], [], ()⟩⟩
    let directory := attempt.world.disk.destination (Settings.cacheDirectory path)
    Session idle path [attempt] ∧ attempt.world.disk.contentAt path = .error .notFound ∧
      (attempt.world.disk.node? directory).isSome = false ∧
      (attempt.ended idle).disk.isDirectory directory = true := by
  intro path attempt directory
  have evaluated : (∀ other ∈ [attempt],
        other.token? idle = none ∨ other.token? idle = some "t") ∧
      ([attempt].flatMap fun attempt =>
        (attempt.events idle).filterMap Event.instant?).Pairwise
          (fun earlier later => later.precedes earlier = false) ∧
      (∀ other ∈ [attempt], ∀ disk ∈ [other.world.disk, (other.ended idle).disk],
        isWritable (Settings.cacheDirectory path) [keyOf "t"] disk = true) ∧
      (attempt.world.disk.node? directory).isSome = false ∧
      (attempt.ended idle).disk.isDirectory directory = true := by
    decide +kernel
  obtain ⟨tokens, steady, disks, absent, present⟩ := evaluated
  refine ⟨session_of_isChain (by simp [attempt]) steady (.singleton _) tokens ?_ ?_,
    eq_error_of_failureOf? (by decide), absent, present⟩
  · intro other member disk inside
    exact writable_of_isWritable (fun _ => List.mem_singleton.mpr) (disks other member disk inside)
  · intro other member code task
    obtain rfl := List.mem_singleton.mp member
    cases task

/-- Commands with one settings file of which the first downloads a feed for a token and the second
asks for the same token half a minute later, but for a millisecond. -/
theorem window_across_commands_reused :
    let nearly : Instant := ⟨29, 999000000, by decide⟩
    let path : Path := ⟨"s.ron"⟩
    let first : Attempt Instant :=
      ⟨{ settings := path, token := some " t", task := .feed }, Feed.worldAt .epoch⟩
    let second : Attempt Instant :=
      ⟨{ settings := path, token := some "t", task := .lookup "c" .title },
        { first.ended Feed.emptyNetwork with outside := nearly }⟩
    Session Feed.emptyNetwork path [first, second] ∧
      ∃ source asked, first.Asks Feed.emptyNetwork "t" source ∧
        source.call.Downloaded .empty .epoch ∧ second.Asks Feed.emptyNetwork "t" asked ∧
        asked.call.requests = 0 := by
  intro nearly path first second
  have tokens : ∀ attempt ∈ [first, second], attempt.token? Feed.emptyNetwork = some "t" := by
    decide +kernel
  have evaluated : ([first, second].flatMap fun attempt =>
        (attempt.events Feed.emptyNetwork).filterMap Event.instant?).Pairwise
          (fun earlier later => later.precedes earlier = false) ∧
      (∀ attempt ∈ [first, second],
        ∀ disk ∈ [attempt.world.disk, (attempt.ended Feed.emptyNetwork).disk],
          isWritable (Settings.cacheDirectory path) [keyOf "t"] disk = true) ∧
      (first.consultation? Feed.emptyNetwork).map (fun asked =>
        (asked.call.result.toOption, asked.call.events.map Event.isRequest,
          asked.call.events.filterMap Event.instant?)) =
        some (some .empty, [false, true, false], [.epoch, .epoch]) ∧
      (second.consultation? Feed.emptyNetwork).map (fun asked =>
        asked.call.events.head?.bind Event.instant?) = some (some nearly) := by
    decide +kernel
  obtain ⟨steady, disks, source?, asked?⟩ := evaluated
  have session : Session Feed.emptyNetwork path [first, second] := by
    refine session_of_isChain (by simp [first, second]) steady ?_
      (fun attempt member => .inr (tokens attempt member)) (fun attempt member disk inside => ?_) ?_
    · exact List.isChain_pair.mpr rfl
    · exact writable_of_isWritable (fun _ => List.mem_singleton.mpr)
        (disks attempt member disk inside)
    · simp [first, second]
  obtain ⟨source, asksFirst⟩ := Attempt.asks_of_token? (tokens first (by simp))
  obtain ⟨asked, asksSecond⟩ := Attempt.asks_of_token? (tokens second (by simp))
  rw [asksFirst.consulted, Option.map_some, Option.some.injEq, Prod.mk.injEq,
    Prod.mk.injEq] at source?
  obtain ⟨answer, kinds, instants⟩ := source?
  obtain ⟨url, reply, happened⟩ := Feed.exists_download kinds instants
  have downloaded : source.call.Downloaded .empty .epoch :=
    ⟨eq_ok_of_toOption answer, _, url, reply, happened⟩
  obtain ⟨expiry, start, limited, starts, _, inside, _⟩ :=
    (Session.window_across_commands session).1 [] first [] second [] "t" source asked .empty .epoch
      rfl asksFirst downloaded asksSecond
  refine ⟨session, source, asked, asksFirst, downloaded, asksSecond, (inside ?_).1⟩
  rw [asksSecond.consulted, Option.map_some, Option.some.injEq, starts] at asked?
  have last : Instant.epoch.later? 30 = some ⟨30, 0, by decide⟩ := by decide
  rw [last] at limited
  cases limited
  cases asked?
  decide

end Command
end QuizFeed
