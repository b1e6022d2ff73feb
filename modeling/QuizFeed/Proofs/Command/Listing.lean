import Mathlib.Data.List.Induction
import QuizFeed.Proofs.Command.Window
import QuizFeed.Proofs.Feed.Soundness

/-!
# What is listed is found

Where commands start without cached feeds and nobody else writes cached feeds, every cached feed was
downloaded by an earlier command (`Course.sourced`). This is an invariant of the bytes in the place
of each file, since a file may come to light only when a directory on its way is made. So every feed
that a command works on is sound, also one that was read back from a file, and a later look-up in
the window of the same download prints what was listed (`Course.lookup_finds_listed`).
-/

namespace QuizFeed

namespace Feed

/-- A downloaded feed is sound. -/
theorem Loads.sound_of_downloaded {settings : FeedSettings} {contents : Cache.Contents}
    {events : List Event} {result : Except LoadFailure Feed} {put : Option (String × Snapshot)}
    {feed : Feed} {finish : Time.Instant} (loads : Loads settings contents events result put)
    (downloaded : (Call.mk settings events result).Downloaded feed finish) : feed.IsSound := by
  obtain ⟨answered, start, url, reply, happened⟩ := downloaded
  cases loads with
  | unauthorised | served | failed => cases happened
  | unlimited => cases answered
  | downloaded =>
    cases answered
    exact Projection.sound_ofValue _ _

end Feed

namespace Command

open Files Cache Time

variable {ε : Type} {outside : Outside ε} {directory : Path} {attempts : List (Attempt ε)}

namespace Attempt

variable {attempt : Attempt ε} {asked : Consultation ε} {snapshot : Snapshot} {key : String}
  {content : ByteArray}

/-- Whether a command downloads the feed of a snapshot and gives it its expiry. -/
def Sources (outside : Outside ε) (attempt : Attempt ε) (snapshot : Snapshot) : Prop :=
  ∃ asked finish, attempt.consultation? outside = some asked ∧
    asked.call.Downloaded snapshot.feed finish ∧
    finish.later? Feed.lifetime = some snapshot.expiry

/-- A feed that a command downloads is sound. -/
theorem Sources.sound (sources : attempt.Sources outside snapshot) : snapshot.feed.IsSound := by
  obtain ⟨asked, finish, consulted, downloaded, _⟩ := sources
  obtain ⟨put, loads, _⟩ := loads_of_consultation? consulted
  exact loads.sound_of_downloaded downloaded

/-- What is in the file for a key after a call was there before, or is the document of a feed that
the call downloaded. -/
theorem fileBytes_call (consulted : attempt.consultation? outside = some asked)
    (there : fileBytes attempt.directory asked.world.disk key = some content) :
    fileBytes attempt.directory attempt.world.disk key = some content ∨
      ∃ snapshot, content = snapshot.document.toUTF8 ∧ attempt.Sources outside snapshot := by
  obtain ⟨put, loads, leaves⟩ := loads_of_consultation? consulted
  cases leaves with
  | same held =>
    rw [held.1] at there
    exact .inl there
  | @set before placed stored held disk =>
    rw [disk] at there
    dsimp only [fileStore] at there
    rw [← held.1]
    rcases fileBytes_save outside attempt.directory placed stored before with same | written
    · rw [same] at there
      exact .inl there
    · rw [written] at there
      split at there
      · right
        obtain ⟨finish, downloaded, limited⟩ := loads.downloaded_of_put
        exact ⟨stored, (Option.some.inj there).symm, asked, finish, consulted, downloaded, limited⟩
      · exact .inl there

/-- What is in the file for a key after a command was there before, or is the document of a feed
that the command downloaded. -/
theorem fileBytes_ended (elsewhere : attempt.CopiesElsewhere outside)
    (there : fileBytes attempt.directory (attempt.ended outside).disk key = some content) :
    fileBytes attempt.directory attempt.world.disk key = some content ∨
      ∃ snapshot, content = snapshot.document.toUTF8 ∧ attempt.Sources outside snapshot := by
  cases consulted : attempt.consultation? outside with
  | none =>
    obtain ⟨places, name, writes⟩ := writes_of_silent consulted
    rw [fileBytes_of_writes writes (attempt.place_ne_beside _ key name)] at there
    exact .inl there
  | some asked =>
    obtain ⟨places, target, writes, beside⟩ := finish_writes_elsewhere elsewhere consulted key
    rw [fileBytes_of_writes writes beside] at there
    exact fileBytes_call consulted there

end Attempt

/-- Commands with one directory of cached feeds, which starts without cached feeds and which nothing
but the calls of the commands writes to. -/
structure Course (outside : Outside ε) (directory : Path) (attempts : List (Attempt ε)) : Prop where
  sameDirectory : ∀ attempt ∈ attempts, attempt.directory = directory
  /-- No feed is cached before the first command. -/
  begun : ∀ first ∈ attempts.head?, ∀ key, fileBytes directory first.world.disk key = none
  /-- Nothing but the commands changes what is in a file and what can be read from it. -/
  undisturbed : ∀ earlier first second later, attempts = earlier ++ first :: second :: later →
    ∀ key,
      fileBytes directory second.world.disk key =
        fileBytes directory (first.ended outside).disk key ∧
      fileContents directory second.world.disk key =
        fileContents directory (first.ended outside).disk key
  elsewhere : ∀ attempt ∈ attempts, attempt.CopiesElsewhere outside

namespace Course

variable {earlier between later : List (Attempt ε)} {attempt first second : Attempt ε}
  {asked : Consultation ε} {feed : Feed} {key token : String} {snapshot : Snapshot}

/-- A command that splits a session is in it. -/
theorem mem_of_split (split : attempts = earlier ++ attempt :: later) : attempt ∈ attempts := by
  simp [split]

/-- Every cached feed was downloaded by an earlier command. -/
theorem sourced (course : Course outside directory attempts)
    (split : attempts = earlier ++ attempt :: later) {content : ByteArray}
    (there : fileBytes directory attempt.world.disk key = some content)
    (read : snapshotOf? content = some snapshot) :
    ∃ source ∈ earlier, source.Sources outside snapshot := by
  induction earlier using List.reverseRecOn generalizing attempt later with
  | nil =>
    have first : attempt ∈ attempts.head? := by simp [split]
    rw [course.begun attempt first] at there
    cases there
  | append_singleton front last inductionHypothesis =>
    have neighbours : attempts = front ++ last :: attempt :: later := by simpa using split
    have member := mem_of_split neighbours
    rw [(course.undisturbed front last attempt later neighbours key).1,
      ← course.sameDirectory last member] at there
    rcases Attempt.fileBytes_ended (course.elsewhere last member) there with
      before | ⟨stored, isDocument, sources⟩
    · rw [course.sameDirectory last member] at before
      obtain ⟨source, inside, sources⟩ := inductionHypothesis neighbours before
      exact ⟨source, List.mem_append_left _ inside, sources⟩
    · rw [isDocument, snapshotOf?_document] at read
      cases read
      exact ⟨last, by simp, sources⟩

/-- Every feed that a command works on was downloaded by it or by an earlier one. -/
theorem exists_source (course : Course outside directory attempts)
    (split : attempts = earlier ++ attempt :: later)
    (consulted : attempt.consultation? outside = some asked)
    (answered : asked.call.result = .ok feed) :
    ∃ source ∈ earlier ++ [attempt], ∃ expiry, source.Sources outside ⟨feed, expiry⟩ := by
  have sameDirectory := course.sameDirectory attempt (mem_of_split split)
  obtain ⟨put, loads, _⟩ := Attempt.loads_of_consultation? consulted
  rw [sameDirectory] at loads
  generalize happened : asked.call.events = events at loads
  rw [answered] at loads
  cases loads with
  | @served own start snapshot usable kept fresh =>
    obtain ⟨content, there, read⟩ := exists_of_fileContents kept
    obtain ⟨source, inside, sources⟩ := course.sourced split there read
    exact ⟨source, List.mem_append_left _ inside, snapshot.expiry, sources⟩
  | @downloaded own start reply value finish expiry usable stale good limited =>
    exact ⟨attempt, by simp, expiry, asked, finish, consulted,
      ⟨answered, start, _, reply, happened⟩, limited⟩

/-- Every feed that a command works on is sound. -/
theorem sound (course : Course outside directory attempts)
    (split : attempts = earlier ++ attempt :: later)
    (consulted : attempt.consultation? outside = some asked)
    (answered : asked.call.result = .ok feed) : feed.IsSound := by
  obtain ⟨source, _, expiry, sources⟩ := course.exists_source split consulted answered
  exact sources.sound

/-- A later call for the same token that starts before the expiry is served with the cached feed. -/
theorem served (course : Course outside directory attempts)
    (steady : (attempts.flatMap fun attempt => (attempt.events outside).filterMap
      Event.instant?).Pairwise fun earlier later => later.precedes earlier = false)
    (split : attempts = earlier ++ first :: between ++ second :: later)
    (kept : fileContents directory (first.ended outside).disk (keyOf token) = some snapshot)
    (asks : second.Asks outside token asked) {start : Instant} (starts : asked.call.StartsAt start)
    (inside : snapshot.isFresh start = true) : asked.call.result = .ok snapshot.feed := by
  have member : second ∈ attempts := by simp [split]
  have keptSecond := kept_between course.sameDirectory
    (fun earlier first second later split =>
      (course.undisturbed earlier first second later split (keyOf token)).2)
    course.elsewhere split kept fun other between askedOther own startOther consulted _ _
      startsOther => Instant.precedes_of_not_precedes
        (starts_in_order steady split (by simp [between]) asks.consulted starts consulted
          startsOther) inside
  obtain ⟨put, loads, _⟩ := Attempt.loads_of_consultation? asks.consulted
  rw [course.sameDirectory second member] at loads
  obtain ⟨first, startsSame, served, _⟩ := loads.of_kept asks.usable keptSecond
  obtain rfl : start = first := by simpa [starts] using starts.symm.trans startsSame
  exact (served inside).2.1

end Course

/-- A network that answers every request with one listed item. -/
def itemNetwork : Outside Instant where
  now instant := (instant, instant)
  fetch _ instant :=
    (.ok "[\x7b\"uid\":\"u\",\"data\":\x7b\"title\":\"T\"\x7d\x7d]".toUTF8, instant)

end Command
end QuizFeed
