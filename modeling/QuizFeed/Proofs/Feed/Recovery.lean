import QuizFeed.Proofs.Cache.Bytes
import QuizFeed.Proofs.Feed.Partitions
import QuizFeed.Proofs.Feed.Rate

/-!
# Recovery from a broken cache file

A file that holds no fresh snapshot is no better than no file: the call for the feed does what it
does with an empty memory (`visit_of_stale`), and nothing that is wrong with the file or with its
directory shows in the result. If the file can be written, the call leaves a snapshot in it
(`kept_of_downloaded`). Every call keeps the snapshot, unless it replaces it by a later download
(`kept_visit`), and so do calls one after the other (`kept_visits`). A call that finds it there
while it is fresh is served with it.
-/

namespace QuizFeed.Feed

open Time Cache

/-- Whether a call leaves the file for a token alone while what is in it can be served: if it shares
the file, then it starts before an expiry, or downloads no feed. -/
def Call.Spares (call : Call) (token : String) (expiry : Instant) : Prop :=
  ∀ used, call.settings.usableToken = some used →
    fingerprint (keyOf used) = fingerprint (keyOf token) →
    (∃ start, call.StartsAt start ∧ start.precedes expiry = true) ∨
      ∀ feed finish, ¬ call.Downloaded feed finish

variable {ε : Type} {outside : Outside ε} {settings : FeedSettings} {token : String}

/-- Where nothing can be served, what is kept does not matter. -/
theorem Loads.of_stale {state : ε} {contents others : Contents} {events : List Event}
    {result : Except LoadFailure Feed} {put : Option (String × Snapshot)}
    (loads : Loads settings contents events result put) (shown : outside.Shows state events)
    (stale : ∀ token, settings.usableToken = some token →
      IsStale contents token (outside.now state).1)
    (staleOther : ∀ token, settings.usableToken = some token →
      IsStale others token (outside.now state).1) :
    Loads settings others events result put := by
  cases loads with
  | unauthorised absent => exact .unauthorised absent
  | @served token start snapshot usable kept fresh =>
    obtain ⟨rfl, -⟩ := shown
    rw [stale token usable snapshot kept] at fresh
    cases fresh
  | @failed token _ _ _ usable _ bad =>
    obtain ⟨rfl, -⟩ := shown
    exact .failed usable (staleOther token usable) bad
  | @unlimited token _ _ _ _ usable _ good last =>
    obtain ⟨rfl, -⟩ := shown
    exact .unlimited usable (staleOther token usable) good last
  | @downloaded token _ _ _ _ _ usable _ good limited =>
    obtain ⟨rfl, -⟩ := shown
    exact .downloaded usable (staleOther token usable) good limited

/-- Where nothing can be served, a feed is downloaded and put. -/
theorem Loads.put_of_stale {state : ε} {contents : Contents} {events : List Event} {feed : Feed}
    {put : Option (String × Snapshot)} (loads : Loads settings contents events (.ok feed) put)
    (shown : outside.Shows state events) (usable : settings.usableToken = some token)
    (stale : IsStale contents token (outside.now state).1) :
    ∃ finish expiry, (Call.mk settings events (.ok feed)).Downloaded feed finish ∧
      finish.later? lifetime = some expiry ∧ put = some (keyOf token, ⟨feed, expiry⟩) := by
  cases loads with
  | @served own start snapshot usableOwn kept fresh =>
    obtain rfl := Option.some.inj (usableOwn.symm.trans usable)
    obtain ⟨rfl, -⟩ := shown
    rw [stale snapshot kept] at fresh
    cases fresh
  | @downloaded own start reply _ finish expiry usableOwn _ _ limited =>
    obtain rfl := Option.some.inj (usableOwn.symm.trans usable)
    exact ⟨finish, expiry, ⟨rfl, start, _, reply, rfl⟩, limited, rfl⟩

/-- A visit loads a feed from a place, with what clock and network show. -/
theorem visit_loads (outside : Outside ε) (place : Place) (settings : FeedSettings)
    (world : World ε) :
    let first := visit outside place settings world
    ∃ put, place.store.Leaves outside (place.Holds world) (place.contents world) first.after put ∧
      Loads settings (place.contents world) first.call.events first.call.result put ∧
      outside.Shows world.outside first.call.events := by
  obtain ⟨put, leaves, loads⟩ := load_place outside settings place world
  exact ⟨put, leaves, loads, Program.shows_events outside (load settings place.store) world⟩

/-- Calls show the same in two places where nothing can be served when they start. -/
theorem visit_of_stale {place other : Place} {first second : World ε}
    (same : first.outside = second.outside)
    (stale : ∀ token, settings.usableToken = some token →
      IsStale (place.contents first) token (outside.now first.outside).1)
    (staleOther : ∀ token, settings.usableToken = some token →
      IsStale (other.contents second) token (outside.now first.outside).1) :
    (visit outside place settings first).call = (visit outside other settings second).call := by
  obtain ⟨_, _, loads, shown⟩ := visit_loads outside place settings first
  obtain ⟨_, _, loadsSecond, shownSecond⟩ := visit_loads outside other settings second
  rw [← same] at shownSecond
  obtain ⟨events, results, -⟩ := (loads.of_stale shown stale staleOther).unique loadsSecond
    (fun _ _ => rfl) shown shownSecond
  exact (Call.mk.injEq ..).mpr ⟨rfl, events, results⟩

/-- Where nothing can be served from a file, a call shows the same as with an empty memory. -/
theorem visit_of_stale_file {directory : Path} (shared world : World ε)
    (stale : ∀ token, settings.usableToken = some token →
      IsStale (fileContents directory shared.disk) token (outside.now world.outside).1) :
    (visit outside (.files directory) settings ((Place.files directory).carry world shared)).call =
      (visit outside .memory settings { world with memory := [] }).call :=
  visit_of_stale rfl stale fun _ _ _ kept => nomatch kept

/-- Where nothing changes the state of the outside, a call shows one instant only. -/
theorem visit_instants (outside : Outside ε) (still : ∀ state, (outside.now state).2 = state)
    (stays : ∀ url state, (outside.fetch url state).2 = state) (place : Place)
    (settings : FeedSettings) (world : World ε) :
    let first := visit outside place settings world
    (∀ start, first.call.StartsAt start → start = (outside.now world.outside).1) ∧
      ∀ feed finish, first.call.Downloaded feed finish →
        finish = (outside.now world.outside).1 := by
  obtain ⟨_, _, _, shown⟩ := visit_loads outside place settings world
  refine ⟨fun start starts => shown.instant_eq still stays starts.mem, ?_⟩
  rintro feed finish ⟨-, start, url, reply, happened⟩
  refine shown.instant_eq still stays ?_
  rw [happened]
  simp [Event.instant?]

section Files

variable {directory : Path} {world shared : World ε} {snapshot : Snapshot} {feed : Feed}

/-- What is left of a directory by a call that puts something into it, or nothing. -/
theorem disk_of_leaves {contents : Contents} {after : World ε} {put : Option (String × Snapshot)}
    (leaves : (Place.files directory).store.Leaves outside ((Place.files directory).Holds world)
      contents after put) :
    match put with
    | none => after.disk = world.disk
    | some (key, snapshot) => ∃ before : World ε, before.disk = world.disk ∧
      after.disk = ((save directory key snapshot).run outside before).2.disk := by
  cases leaves with
  | same held => exact held.1
  | set held disk => exact ⟨_, held.1, disk⟩

/-- A download for a token leaves its snapshot in the file for the token, where that can be
written. -/
theorem kept_of_downloaded (usable : settings.usableToken = some token)
    (stale : IsStale (fileContents directory world.disk) token (outside.now world.outside).1)
    (writable : Writable directory (· = keyOf token) world.disk)
    (answered : (visit outside (.files directory) settings world).call.result = .ok feed) :
    let first := visit outside (.files directory) settings world
    ∃ finish expiry, first.call.Downloaded feed finish ∧ finish.later? 30 = some expiry ∧
      first.after.disk.contentAt (filePath directory (keyOf token)) =
        .ok (Snapshot.mk feed expiry).document.toUTF8 ∧
      fileContents directory first.after.disk (keyOf token) = some ⟨feed, expiry⟩ := by
  intro first
  obtain ⟨put, leaves, loads, shown⟩ := visit_loads outside (.files directory) settings world
  rw [answered] at loads
  obtain ⟨finish, expiry, downloaded, limited, rfl⟩ := loads.put_of_stale shown usable stale
  obtain ⟨before, same, disk⟩ := disk_of_leaves leaves
  rw [← same] at writable
  obtain ⟨location, ready, holds⟩ := holds_save outside writable rfl ⟨feed, expiry⟩
  have found : first.after.disk.contentAt (filePath directory (keyOf token)) =
      .ok (Snapshot.mk feed expiry).document.toUTF8 := by
    rw [disk, (ready.of_holds holds).contentAt_eq rfl, holds.node?_eq, if_pos rfl]
  refine ⟨finish, expiry, ⟨answered, downloaded.2⟩, limited, found, ?_⟩
  unfold fileContents
  rw [found]
  simp only [Except.toOption, Option.bind_some, snapshotOf?_document]

/-- A call for a token is served with the snapshot that is in the file for the token, if it starts
while that is fresh. -/
theorem served_of_kept (usable : settings.usableToken = some token)
    (kept : fileContents directory world.disk (keyOf token) = some snapshot) :
    let last := visit outside (.files directory) settings world
    ∃ start, last.call.StartsAt start ∧ (snapshot.isFresh start = true →
      last.call.events = [.reading start] ∧ last.call.result = .ok snapshot.feed) := by
  intro last
  obtain ⟨_, _, loads, -⟩ := visit_loads outside (.files directory) settings world
  obtain ⟨start, starts, served, -⟩ := loads.of_kept usable kept
  refine ⟨start, starts, fun fresh => ?_⟩
  obtain ⟨events, result, -⟩ := served fresh
  exact ⟨events, result⟩

/-- Where the clock stands still during a call, what the call downloads stays in the file until the
download's own instant and the lifetime. -/
theorem kept_of_downloaded_still (still : ∀ state, (outside.now state).2 = state)
    (stays : ∀ url state, (outside.fetch url state).2 = state)
    (usable : settings.usableToken = some token)
    (stale : IsStale (fileContents directory world.disk) token (outside.now world.outside).1)
    (writable : Writable directory (· = keyOf token) world.disk)
    (limited : (outside.now world.outside).1.later? 30 = some expiry)
    (answered : (visit outside (.files directory) settings world).call.result = .ok feed) :
    fileContents directory (visit outside (.files directory) settings world).after.disk
      (keyOf token) = some ⟨feed, expiry⟩ := by
  obtain ⟨finish, limit, downloaded, limitedFinish, -, kept⟩ :=
    kept_of_downloaded usable stale writable answered
  rw [(visit_instants outside still stays _ settings world).2 _ _ downloaded, limited]
    at limitedFinish
  obtain rfl := Option.some.inj limitedFinish
  exact kept

/-- What a call downloads is what the next one is served with, if that starts before it expires. -/
theorem served_of_downloaded (outside : Outside ε) (still : ∀ state, (outside.now state).2 = state)
    (stays : ∀ url state, (outside.fetch url state).2 = state)
    (usable : settings.usableToken = some token) (shared first next : World ε)
    (stale : IsStale (fileContents directory shared.disk) token (outside.now first.outside).1)
    (writable : Writable directory (· = keyOf token) shared.disk)
    {expiry : Instant} (limited : (outside.now first.outside).1.later? 30 = some expiry)
    (early : (outside.now next.outside).1.precedes expiry = true) :
    let place : Place := .files directory
    let source := visit outside place settings (place.carry first shared)
    let last := visit outside place settings (place.carry next source.after)
    source.call.result = .ok feed →
      last.call.StartsAt (outside.now next.outside).1 ∧ last.call.result = .ok feed := by
  intro place source last answered
  have found : fileContents directory (place.carry next source.after).disk (keyOf token) =
      some ⟨feed, expiry⟩ :=
    kept_of_downloaded_still still stays usable stale writable
      limited answered
  obtain ⟨start, starts, served⟩ := served_of_kept usable found
  obtain rfl : start = (outside.now next.outside).1 :=
    (visit_instants outside still stays place settings (place.carry next source.after)).1 _ starts
  exact ⟨starts, (served early).2⟩

/-- A call keeps the snapshot that is in the file for a token, unless it replaces it. -/
theorem kept_visit
    (kept : fileContents directory world.disk (keyOf token) = some snapshot)
    (spares : (visit outside (.files directory) settings world).call.Spares token
      snapshot.expiry) :
    fileContents directory (visit outside (.files directory) settings world).after.disk
      (keyOf token) = some snapshot := by
  obtain ⟨put, leaves, loads, -⟩ := visit_loads outside (.files directory) settings world
  have left := disk_of_leaves leaves
  cases put with
  | none => exact left ▸ kept
  | some pair =>
    obtain ⟨key, placed⟩ := pair
    obtain ⟨before, same, disk⟩ := left
    obtain ⟨used, usable, rfl⟩ := loads.key_of_put
    obtain ⟨finish, downloaded, -⟩ := loads.downloaded_of_put
    by_cases shares : fingerprint (keyOf used) = fingerprint (keyOf token)
    · rcases spares used usable shares with ⟨start, starts, early⟩ | nothing
      · -- A call that starts while the snapshot is fresh puts nothing.
        obtain ⟨first, isFirst, served, -⟩ :=
          loads.of_kept usable ((fileContents_of_fingerprint shares).trans kept)
        cases isFirst.symm.trans starts
        obtain ⟨-, -, none⟩ := served early
        cases none
      · exact absurd downloaded (nothing _ _)
    · rw [disk]
      exact preserves_save outside (Ne.symm shares) placed before snapshot (same ▸ kept)

/-- Calls one after the other keep the snapshot that is in the file for a token, if none of them
replaces it, so that the next one finds it. -/
theorem kept_visits {attempts : List (FeedSettings × World ε)} {earlier later : List (Visit ε)}
    {last : Visit ε}
    (made : visits outside (.files directory) attempts shared = earlier ++ last :: later)
    (kept : fileContents directory shared.disk (keyOf token) = some snapshot)
    (spare : ∀ other ∈ earlier, other.call.Spares token snapshot.expiry) :
    ∃ settings world, last = visit outside (.files directory) settings world ∧
      fileContents directory world.disk (keyOf token) = some snapshot := by
  induction earlier generalizing attempts shared with
  | nil =>
    cases attempts with
    | nil => cases made
    | cons attempt rest =>
      obtain ⟨rfl, -⟩ := List.cons.inj made
      exact ⟨_, _, rfl, kept⟩
  | cons first between inductionHypothesis =>
    cases attempts with
    | nil => cases made
    | cons attempt rest =>
      obtain ⟨settings, world⟩ := attempt
      obtain ⟨rfl, madeRest⟩ := List.cons.inj made
      obtain ⟨spares, spareRest⟩ := List.forall_mem_cons.mp spare
      have found : fileContents directory ((Place.files directory).carry world shared).disk
          (keyOf token) = some snapshot := kept
      exact inductionHypothesis madeRest (kept_visit found spares) spareRest

end Files

/-- A broken cache file never breaks a call, and it is healed. Whatever lies at the place of the
file: if no fresh snapshot can be read from it, the call shows the same as with an empty memory. If
the call gives a feed and the file can be written, then the file holds the snapshot of that feed,
and every later call for the token that starts before its expiry is served with it, unless a call
in between that shares the file has replaced it. -/
theorem broken_file_recovers (outside : Outside ε) (directory : Path) (settings : FeedSettings)
    (world : World ε)
    (stale : ∀ token, settings.usableToken = some token →
      IsStale (fileContents directory world.disk) token (outside.now world.outside).1) :
    let place : Place := .files directory
    let first := visit outside place settings world
    first.call = (visit outside .memory settings { world with memory := [] }).call ∧
    ∀ token feed, settings.usableToken = some token → first.call.result = .ok feed →
      Writable directory (· = keyOf token) world.disk →
      ∃ finish expiry, first.call.Downloaded feed finish ∧ finish.later? 30 = some expiry ∧
        first.after.disk.contentAt (filePath directory (keyOf token)) =
          .ok (Snapshot.mk feed expiry).document.toUTF8 ∧
        ∀ attempts earlier last later,
          visits outside place attempts first.after = earlier ++ last :: later →
          last.call.settings.usableToken = some token →
          (∀ other ∈ earlier, other.call.Spares token expiry) →
          ∃ start, last.call.StartsAt start ∧ (start.precedes expiry = true →
            last.call.events = [.reading start] ∧ last.call.result = .ok feed) := by
  intro place first
  constructor
  · refine visit_of_stale rfl stale fun token _ snapshot kept => ?_
    cases kept
  · intro token feed usable answered writable
    obtain ⟨finish, expiry, downloaded, limited, stored, kept⟩ :=
      kept_of_downloaded usable (stale token usable) writable answered
    refine ⟨finish, expiry, downloaded, limited, stored, ?_⟩
    intro attempts earlier last later made isUsable spare
    obtain ⟨others, begun, rfl, found⟩ := kept_visits made kept spare
    exact served_of_kept isUsable found

/-- A world at some instant, with a file in the place of the one for a token that holds no text. -/
def brokenAt (instant : Instant) : World Instant :=
  { worldAt instant with
    disk := ⟨[(["cache"], .directory), (["cache", fileName (keyOf "t")], .file ⟨#[255]⟩)], [], []⟩ }

/-- A broken file is stale. -/
theorem isStale_brokenAt (instant : Instant) :
    IsStale (fileContents ⟨"cache"⟩ (brokenAt .epoch).disk) "t" instant := by
  have nothing : fileContents ⟨"cache"⟩ (brokenAt .epoch).disk (keyOf "t") = none := by
    decide +kernel
  intro snapshot kept
  cases nothing.symm.trans kept

/-- The first call does as if there were no file, and a second one half a minute later, but for a
millisecond, is served from the file. -/
theorem broken_file_recovers_served :
    let place : Place := .files ⟨"cache"⟩
    let settings : FeedSettings := { token := some "t" }
    let nearly : Instant := ⟨29, 999000000, by decide⟩
    let first := visit emptyNetwork place settings (brokenAt .epoch)
    first.call = (visit emptyNetwork .memory settings { brokenAt .epoch with memory := [] }).call ∧
      first.call.result = .ok .empty ∧
      ∃ last, visits emptyNetwork place [(settings, worldAt nearly)] first.after = [last] ∧
        last.call.events = [.reading nearly] ∧ last.call.result = .ok .empty := by
  intro place settings nearly first
  have usable : settings.usableToken = some "t" := by decide
  obtain ⟨same, healed⟩ := broken_file_recovers emptyNetwork ⟨"cache"⟩ settings (brokenAt .epoch)
    fun token isUsable => Option.some.inj (usable.symm.trans isUsable) ▸ isStale_brokenAt _
  have answered : first.call.result = .ok .empty := by
    rw [same]
    exact eq_ok_of_toOption (by decide +kernel)
  have writable : Writable ⟨"cache"⟩ (· = keyOf "t") (brokenAt .epoch).disk :=
    writable_of_isWritable (fun _ => List.mem_singleton.mpr) (by decide +kernel)
  obtain ⟨finish, expiry, downloaded, limited, -, served⟩ :=
    healed "t" .empty usable answered writable
  obtain ⟨start, starts, result⟩ :=
    served [(settings, worldAt nearly)] [] _ [] rfl usable (List.forall_mem_nil _)
  have instants := visit_instants emptyNetwork (fun _ => rfl) (fun _ _ => rfl) place settings
  obtain rfl : finish = .epoch := (instants (brokenAt .epoch)).2 _ _ downloaded
  obtain rfl : start = nearly := (instants (place.carry (worldAt nearly) first.after)).1 _ starts
  have isExpiry : Instant.epoch.later? 30 = some ⟨30, 0, by decide⟩ := by decide
  obtain rfl := Option.some.inj (limited.symm.trans isExpiry)
  exact ⟨same, answered, _, rfl, result (by decide)⟩

/-- A clock that shows the state of the outside, and a network on which a list without items gets an
item at some instant. -/
def growingNetwork (growth : Instant) : Outside Instant where
  now instant := (instant, instant)
  fetch _ instant :=
    let item := "\x7b\"uid\":\"u\",\"data\":\x7b\"k\":1\x7d\x7d"
    (.ok (if instant.precedes growth then "[]" else "[" ++ item ++ "]").toUTF8, instant)

/-- A call that starts before the expiry of what a first one has left may give another feed: a call
in between started behind the expiry, and then the clock went back. -/
theorem recovered_file_replaced :
    let place : Place := .files ⟨"cache"⟩
    let settings : FeedSettings := { token := some "t" }
    let expiry : Instant := ⟨30, 0, by decide⟩
    let behind : Instant := ⟨31, 0, by decide⟩
    let before : Instant := ⟨11, 0, by decide⟩
    let outside := growingNetwork expiry
    let first := visit outside place settings (brokenAt .epoch)
    IsStale (fileContents ⟨"cache"⟩ (brokenAt .epoch).disk) "t" .epoch ∧
      Writable ⟨"cache"⟩ (· = keyOf "t") (brokenAt .epoch).disk ∧
      first.call.result = .ok .empty ∧ Instant.epoch.later? 30 = some expiry ∧
      ∃ second third,
        visits outside place [(settings, worldAt behind), (settings, worldAt before)] first.after =
          [second, third] ∧
        third.call.StartsAt before ∧ before.precedes expiry = true ∧
        ∃ feed, third.call.result = .ok feed ∧ feed ≠ .empty := by
  intro place settings expiry behind before outside first
  have usable : settings.usableToken = some "t" := by decide
  have isOwn {token contents instant} (stale : IsStale contents "t" instant)
      (isUsable : settings.usableToken = some token) : IsStale contents token instant :=
    Option.some.inj (usable.symm.trans isUsable) ▸ stale
  have same : first.call = _ :=
    visit_of_stale_file (brokenAt .epoch) (brokenAt .epoch) fun _ => isOwn (isStale_brokenAt _)
  have answered : first.call.result = .ok .empty := by
    rw [same]
    exact eq_ok_of_toOption (by decide +kernel)
  have writable : Writable ⟨"cache"⟩ (· = keyOf "t") (brokenAt .epoch).disk :=
    writable_of_isWritable (fun _ => List.mem_singleton.mpr) (by decide +kernel)
  have writableAgain : Writable ⟨"cache"⟩ (· = keyOf "t") first.after.disk :=
    writable_of_isWritable (fun _ => List.mem_singleton.mpr) (by decide +kernel)
  have isExpiry : Instant.epoch.later? 30 = some expiry := by decide
  have kept : fileContents ⟨"cache"⟩ first.after.disk (keyOf "t") = some ⟨.empty, expiry⟩ := by
    unfold first place
    exact kept_of_downloaded_still (fun _ => rfl) (fun _ _ => rfl) usable (isStale_brokenAt _)
      writable isExpiry answered
  have stale : IsStale (fileContents ⟨"cache"⟩ first.after.disk) "t" behind := by
    intro snapshot found
    obtain rfl := Option.some.inj (kept.symm.trans found)
    decide
  have limited : behind.later? 30 = some ⟨61, 0, by decide⟩ := by decide
  have early : before.precedes ⟨61, 0, by decide⟩ = true := by decide
  let second := visit outside place settings (place.carry (worldAt behind) first.after)
  have size : second.call.result.toOption.map Feed.size = some 1 := by
    unfold second place
    rw [visit_of_stale_file first.after (worldAt behind) fun _ => isOwn stale]
    decide +kernel
  obtain ⟨feed, found, filled⟩ := Option.map_eq_some_iff.mp size
  obtain ⟨starts, result⟩ := served_of_downloaded outside (fun _ => rfl) (fun _ _ => rfl) usable
    first.after (worldAt behind) (worldAt before) stale writableAgain limited early
    (eq_ok_of_toOption found)
  refine ⟨isStale_brokenAt _, writable, answered, isExpiry, second, _, rfl, starts, by decide, feed,
    result, ?_⟩
  rintro rfl
  cases filled

end QuizFeed.Feed
