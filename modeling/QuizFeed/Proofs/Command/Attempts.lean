import QuizFeed.Proofs.Cache.Bytes
import QuizFeed.Proofs.Command.Phases

/-!
# Attempts at commands

An attempt is a command in the world where it starts. An attempt that asks for the feed does so
once: `Attempt.consultation?` is that call together with what the command goes on with
(`Attempt.run_of_consultation?`). What an attempt does to a cached feed follows from what the call
puts into the store (`Attempt.kept`, `Attempt.stored_of_downloaded`).
-/

namespace QuizFeed.Command

open Files Cache

/-- A command, and the world in which it starts. -/
structure Attempt (ε : Type) where
  invocation : Invocation
  world : World ε

/-- A call for the feed in the course of a command, what is printed with its answer, and the world
that the call leaves. -/
structure Consultation (ε : Type) where
  call : Feed.Call
  print : Feed → Program String
  world : World ε

namespace Attempt

variable {ε : Type} (outside : Outside ε) (attempt : Attempt ε)

/-- The settings that a command works with, if they can be read. -/
def settings? : Option Settings :=
  ((Settings.load attempt.invocation.settings).run outside attempt.world).1.toOption

/-- The world that a command leaves. -/
def ended : World ε :=
  ((run attempt.invocation).run outside attempt.world).2

/-- The clock readings and downloads of a command. -/
def events : List Event :=
  (run attempt.invocation).events outside attempt.world

/-- The directory of the feeds that a command caches. -/
def directory : Path :=
  Settings.cacheDirectory attempt.invocation.settings

/-- The call of a command for the feed, if it makes one. -/
def consultation? : Option (Consultation ε) :=
  let loaded := (Settings.load attempt.invocation.settings).run outside attempt.world
  (attempt.settings? outside).bind fun settings =>
    (attempt.invocation.task.print? settings.media).map fun print =>
      let feedSettings := attempt.invocation.feedSettings settings
      let program := Feed.load feedSettings (fileStore attempt.directory)
      { call := ⟨feedSettings, program.events outside loaded.2, (program.run outside loaded.2).1⟩
        print := print
        world := (program.run outside loaded.2).2 }

variable {outside attempt}

/-- A command whose settings can be read performs its task after reading them. -/
theorem run_of_settings? {settings : Settings} (found : attempt.settings? outside = some settings) :
    let loaded := (Settings.load attempt.invocation.settings).run outside attempt.world
    let program := perform attempt.invocation.settings settings attempt.invocation.token
      attempt.invocation.task
    (run attempt.invocation).run outside attempt.world = program.run outside loaded.2 ∧
      attempt.events outside = program.events outside loaded.2 := by
  have answer := eq_ok_of_toOption found
  have quiet := Settings.events_load outside attempt.invocation.settings attempt.world
  unfold events run
  rw [Program.run_bind, Program.events_bind, quiet, List.nil_append, answer]
  exact ⟨rfl, rfl⟩

/-- A command whose settings cannot be read does nothing. -/
theorem run_of_unreadable (absent : attempt.settings? outside = none) :
    (attempt.ended outside).disk = attempt.world.disk ∧ attempt.events outside = [] := by
  have quiet := Settings.events_load outside attempt.invocation.settings attempt.world
  have disk := Settings.disk_load outside attempt.invocation.settings attempt.world
  unfold settings? at absent
  unfold ended events run
  rw [Program.run_bind, Program.events_bind, quiet, List.nil_append]
  generalize (Settings.load attempt.invocation.settings).run outside attempt.world = loaded
    at absent disk ⊢
  obtain ⟨answer, world⟩ := loaded
  cases answer with
  | ok settings => cases absent
  | error failure => exact ⟨disk, rfl⟩

/-- A command that makes a call for the feed goes on with the answer. -/
theorem run_of_consultation? {consultation : Consultation ε}
    (consulted : attempt.consultation? outside = some consultation) :
    let rest := finish consultation.print consultation.call.result
    (run attempt.invocation).run outside attempt.world = rest.run outside consultation.world ∧
      attempt.events outside =
        consultation.call.events ++ rest.events outside consultation.world := by
  obtain ⟨settings, found, isConsultation⟩ := Option.bind_eq_some_iff.mp consulted
  obtain ⟨print, asks, rfl⟩ := Option.map_eq_some_iff.mp isConsultation
  obtain ⟨runs, happens⟩ := run_of_settings? found
  rw [runs, happens, perform_eq_finish asks, Program.run_bind, Program.events_bind]
  exact ⟨rfl, rfl⟩

/-- A command that gets a feed prints what its task prints about it. -/
theorem run_of_answered {consultation : Consultation ε}
    (consulted : attempt.consultation? outside = some consultation) {feed : Feed}
    (answered : consultation.call.result = .ok feed) :
    ((run attempt.invocation).run outside attempt.world).1 =
      .ok ⟨.success, ((consultation.print feed).run outside consultation.world).1⟩ := by
  rw [(run_of_consultation? consulted).1, answered, run_finish_of_ok]

/-- A command with a consultation has settings and a task that prints something from a feed. -/
theorem print_of_consultation? {consultation : Consultation ε}
    (consulted : attempt.consultation? outside = some consultation) :
    ∃ settings, attempt.settings? outside = some settings ∧
      attempt.invocation.task.print? settings.media = some consultation.print := by
  obtain ⟨settings, found, isConsultation⟩ := Option.bind_eq_some_iff.mp consulted
  obtain ⟨print, asks, rfl⟩ := Option.map_eq_some_iff.mp isConsultation
  exact ⟨settings, found, asks⟩

/-- The call of a command loads the feed through the store in its directory. -/
theorem loads_of_consultation? {consultation : Consultation ε}
    (consulted : attempt.consultation? outside = some consultation) :
    let contents := fileContents attempt.directory attempt.world.disk
    ∃ put, Feed.Loads consultation.call.settings contents consultation.call.events
        consultation.call.result put ∧
      (fileStore attempt.directory).Leaves outside
        (fun world held => world.disk = attempt.world.disk ∧ held = contents) contents
        consultation.world put := by
  obtain ⟨settings, found, isConsultation⟩ := Option.bind_eq_some_iff.mp consulted
  obtain ⟨print, asks, rfl⟩ := Option.map_eq_some_iff.mp isConsultation
  have disk := Settings.disk_load outside attempt.invocation.settings attempt.world
  have reads := fileStore_reads outside (fun _ => True) attempt.directory attempt.world.disk
  obtain ⟨put, leaves, loads⟩ :=
    Feed.load_loads (attempt.invocation.feedSettings settings) _ reads (fun _ _ => trivial)
      ⟨disk, rfl⟩
  exact ⟨put, loads, leaves⟩

/-- The look-up of an identifier does nothing but read the settings. -/
theorem run_of_lookup_id {code : String} (task : attempt.invocation.task = .lookup code .id) :
    (attempt.ended outside).disk = attempt.world.disk ∧ attempt.events outside = [] := by
  cases found : attempt.settings? outside with
  | none => exact run_of_unreadable found
  | some settings =>
    obtain ⟨runs, happens⟩ := run_of_settings? found
    have disk := Settings.disk_load outside attempt.invocation.settings attempt.world
    unfold ended
    rw [runs, happens, task, perform]
    exact ⟨disk, rfl⟩

/-- Changing the settings writes nothing but a file beside the directory of cached feeds. -/
theorem run_of_configure (outside : Outside ε) {change : Change}
    (task : attempt.invocation.task = .configure change) :
    attempt.events outside = [] ∧ ∃ name,
      attempt.world.disk.Writes
        (attempt.world.disk.Waypoint (Settings.directoryOf attempt.invocation.settings))
        (attempt.world.disk.destination (Settings.directoryOf attempt.invocation.settings) ++
          [name])
        (attempt.ended outside).disk := by
  cases found : attempt.settings? outside with
  | none =>
    obtain ⟨disk, silent⟩ := run_of_unreadable found
    rw [disk]
    exact ⟨silent, "", .refl _ _ _⟩
  | some settings =>
    obtain ⟨runs, happens⟩ := run_of_settings? found
    have disk := Settings.disk_load outside attempt.invocation.settings attempt.world
    unfold ended
    rw [runs, happens, task, perform, configure, Program.run_bind, Program.events_bind,
      Settings.events_save, ← disk]
    generalize ((Settings.load attempt.invocation.settings).run outside attempt.world).2 = loaded
    obtain ⟨name, writes⟩ := Settings.save_writes outside attempt.invocation.settings
      { settings with feed := change.apply settings.feed } loaded
    split <;> exact ⟨rfl, name, writes⟩

/-- A change of settings replaces a settings file that is there, or leaves the disk as it was. -/
theorem saves_of_configure {change : Change} {settings : Settings} {name : String}
    {content : ByteArray} (task : attempt.invocation.task = .configure change)
    (loaded : attempt.settings? outside = some settings)
    (found : attempt.world.disk.contentAt attempt.invocation.settings = .ok content)
    (last : attempt.invocation.settings.fileName? = some name) :
    let result := (run attempt.invocation).run outside attempt.world
    let changed := { settings with feed := change.apply settings.feed }
    (∃ output, result.1 = .ok output ∧
        attempt.world.disk.Holds (attempt.world.disk.destination attempt.invocation.settings)
          changed.document.toUTF8 result.2.disk) ∨
      ∃ failure, result.1 = .error failure ∧ attempt.world.disk.Alike result.2.disk := by
  intro result changed
  have disk := Settings.disk_load outside attempt.invocation.settings attempt.world
  unfold result
  rw [(run_of_settings? loaded).1, task, perform, configure, Program.run_bind]
  generalize ((Settings.load attempt.invocation.settings).run outside attempt.world).2 = start
    at disk ⊢
  rw [← disk] at found ⊢
  rcases Settings.save_cases outside found last changed with
    ⟨written, answer, holds⟩ | ⟨failure, answer, alike⟩
  · rw [answer]
    exact .inl ⟨_, rfl, holds⟩
  · rw [answer]
    exact .inr ⟨_, rfl, alike⟩

/-- Where the settings file is there, a change of settings makes no directory at all. -/
theorem isDirectory_of_configure {change : Change} {content : ByteArray}
    (task : attempt.invocation.task = .configure change)
    (found : attempt.world.disk.contentAt attempt.invocation.settings = .ok content)
    (location : Location) :
    (attempt.ended outside).disk.isDirectory location =
      attempt.world.disk.isDirectory location := by
  cases loaded : attempt.settings? outside with
  | none => rw [(run_of_unreadable loaded).1]
  | some settings =>
    cases last : attempt.invocation.settings.fileName? with
    | none =>
      unfold ended
      rw [(run_of_settings? loaded).1, task, perform, configure, Program.run_bind, Settings.save,
        last]
      exact congrArg (Disk.isDirectory · location) (Settings.disk_load outside _ _)
    | some name =>
      rcases saves_of_configure task loaded found last with ⟨_, _, holds⟩ | ⟨_, _, alike⟩
      · unfold ended
        by_cases target :
            location = attempt.world.disk.destination attempt.invocation.settings
        · rw [target, holds.noDirectory]
          unfold Disk.isDirectory
          rw [holds.node?_eq, if_pos rfl]
        · unfold Disk.isDirectory
          rw [holds.node?_eq, if_neg target]
      · unfold ended Disk.isDirectory
        rw [alike.node?_eq]

/-- A command that makes no call for the feed writes nothing but a file beside the directory of
cached feeds. -/
theorem writes_of_silent (silent : attempt.consultation? outside = none) :
    ∃ places name, attempt.world.disk.Writes places
      (attempt.world.disk.destination (Settings.directoryOf attempt.invocation.settings) ++ [name])
      (attempt.ended outside).disk := by
  cases found : attempt.settings? outside with
  | none =>
    rw [(run_of_unreadable found).1]
    exact ⟨fun _ => False, "", .refl _ _ _⟩
  | some settings =>
    have noPrint : attempt.invocation.task.print? settings.media = none := by
      unfold consultation? at silent
      rw [found] at silent
      exact Option.map_eq_none_iff.mp silent
    rcases Task.eq_of_print?_eq_none noPrint with ⟨code, task⟩ | ⟨change, task⟩
    · rw [(run_of_lookup_id task).1]
      exact ⟨fun _ => False, "", .refl _ _ _⟩
    · obtain ⟨_, name, writes⟩ := run_of_configure outside task
      exact ⟨_, name, writes⟩

variable {consultation : Consultation ε} {key token : String} {snapshot : Snapshot}

/-- A call for the feed writes nothing but a file in the directory of cached feeds. -/
theorem call_writes (consulted : attempt.consultation? outside = some consultation) :
    ∃ key, attempt.world.disk.Writes (attempt.world.disk.Waypoint attempt.directory)
      (attempt.world.disk.destination attempt.directory ++ [fileName key])
      consultation.world.disk := by
  obtain ⟨put, _, leaves⟩ := loads_of_consultation? consulted
  cases leaves with
  | same held =>
    rw [held.1]
    exact ⟨"", .refl _ _ _⟩
  | @set before key snapshot held disk =>
    have writes := Program.writeFile_writes outside snapshot.document.toUTF8 attempt.directory
      (isSingle_fileName key) before
    rw [disk, ← held.1]
    dsimp only [fileStore]
    rw [disk_save]
    exact ⟨key, writes⟩

/-- Relative paths start after a call for the feed where they did before. -/
theorem working_of_consultation? (consulted : attempt.consultation? outside = some consultation) :
    consultation.world.disk.working = attempt.world.disk.working := by
  obtain ⟨key, writes⟩ := call_writes consulted
  exact writes.keepsDirectories.working

/-- No file beside the directory of cached feeds is at the place of a cached feed. -/
theorem place_ne_beside (attempt : Attempt ε) (disk : Disk) (key name : String) :
    disk.destination attempt.directory ++ [fileName key] ≠
      disk.destination (Settings.directoryOf attempt.invocation.settings) ++ [name] := by
  unfold directory
  rw [Settings.destination_cacheDirectory]
  intro same
  have lengths := congrArg List.length same
  simp at lengths

/-- Whether local copies of images are kept elsewhere than in the directory of cached feeds. -/
def ImagesElsewhere (outside : Outside ε) (attempt : Attempt ε) : Prop :=
  ∀ settings code, attempt.settings? outside = some settings →
    attempt.invocation.task = .thumbnail code →
    attempt.world.disk.destination settings.media.images ≠
      attempt.world.disk.destination attempt.directory

/-- Whether no local copy of an image is made at the place of a cached feed. -/
def CopiesElsewhere (outside : Outside ε) (attempt : Attempt ε) : Prop :=
  ∀ settings asked feed code target key, attempt.settings? outside = some settings →
    attempt.consultation? outside = some asked → asked.call.result = .ok feed →
    attempt.invocation.task = .thumbnail code →
    Media.target? feed code settings.media = some target →
    asked.world.disk.destination target ≠
      asked.world.disk.destination attempt.directory ++ [fileName key]

/-- Copies in another directory are made at the place of no cached feed. -/
theorem ImagesElsewhere.copiesElsewhere (elsewhere : attempt.ImagesElsewhere outside) :
    attempt.CopiesElsewhere outside := by
  intro settings asked feed code target key found consulted _ task isTarget same
  obtain ⟨name, single, rfl⟩ := Media.exists_of_target? isTarget
  rw [Disk.destination_child _ _ single] at same
  have directories := congrArg List.dropLast same
  have working := working_of_consultation? consulted
  rw [List.dropLast_concat, List.dropLast_concat, Disk.destination_of_working working,
    Disk.destination_of_working working] at directories
  exact elsewhere settings code found task directories

/-- What follows a call for the feed writes nothing at the place of a cached feed. -/
theorem finish_writes_elsewhere (elsewhere : attempt.CopiesElsewhere outside)
    (consulted : attempt.consultation? outside = some consultation) (key : String) :
    ∃ places target, consultation.world.disk.Writes places target (attempt.ended outside).disk ∧
      consultation.world.disk.destination attempt.directory ++ [fileName key] ≠ target := by
  obtain ⟨settings, found, asks⟩ := print_of_consultation? consulted
  unfold ended
  rw [(run_of_consultation? consulted).1]
  rcases finish_writes outside asks consultation.call.result consultation.world with
    same | ⟨feed, code, target, answered, task, isTarget, writes⟩
  · rw [same]
    exact ⟨fun _ => False, [], .refl _ _ _, List.concat_ne_nil _ _⟩
  · exact ⟨_, _, writes,
      (elsewhere settings _ feed code target key found consulted answered task isTarget).symm⟩

/-- What follows a call for the feed leaves what can be read of cached feeds. -/
theorem preserves_finish (elsewhere : attempt.CopiesElsewhere outside)
    (consulted : attempt.consultation? outside = some consultation) (key : String) :
    Preserves attempt.directory key consultation.world.disk (attempt.ended outside).disk := by
  obtain ⟨places, target, writes, beside⟩ := finish_writes_elsewhere elsewhere consulted key
  exact preserves_of_writes writes beside

/-- A cached feed outlives a call for the feed, unless the call is for a token with the same file
and comes too late. -/
theorem kept_of_consultation?
    (consulted : attempt.consultation? outside = some consultation)
    (kept : fileContents attempt.directory attempt.world.disk key = some snapshot)
    (early : ∀ other start, consultation.call.settings.usableToken = some other →
      fingerprint (keyOf other) = fingerprint key →
      consultation.call.events.head? = some (.reading start) → snapshot.isFresh start = true) :
    fileContents attempt.directory consultation.world.disk key = some snapshot := by
  obtain ⟨put, loads, leaves⟩ := loads_of_consultation? consulted
  cases leaves with
  | same held =>
    rw [held.1]
    exact kept
  | @set before placed stored held disk =>
    by_cases same : fingerprint placed = fingerprint key
    · -- The token of the call finds the snapshot as its own, and it is fresh: nothing is put.
      obtain ⟨own, usable, rfl⟩ := loads.key_of_put
      rw [← fileContents_of_fingerprint same] at kept
      obtain ⟨start, first, served, _⟩ := loads.of_kept usable kept
      cases (served (early own start usable same first)).2.2
    · rw [disk]
      dsimp only [fileStore]
      refine preserves_save outside (Ne.symm same) stored before snapshot ?_
      rw [held.1]
      exact kept

/-- A cached feed outlives a command, unless the command calls for a feed with the same file and
comes too late. -/
theorem kept (elsewhere : attempt.CopiesElsewhere outside)
    (kept : fileContents attempt.directory attempt.world.disk key = some snapshot)
    (early : ∀ consultation other start, attempt.consultation? outside = some consultation →
      consultation.call.settings.usableToken = some other →
      fingerprint (keyOf other) = fingerprint key →
      consultation.call.events.head? = some (.reading start) → snapshot.isFresh start = true) :
    fileContents attempt.directory (attempt.ended outside).disk key = some snapshot := by
  cases consulted : attempt.consultation? outside with
  | none =>
    obtain ⟨places, name, writes⟩ := writes_of_silent consulted
    exact preserves_of_writes writes (attempt.place_ne_beside _ key name) snapshot kept
  | some consultation =>
    exact preserves_finish elsewhere consulted key snapshot
      (kept_of_consultation? consulted kept fun other start => early consultation other start
        consulted)

/-- A feed that a command downloads is cached when the call ends, if the directory of cached feeds
can be written. -/
theorem stored_of_downloaded
    (consulted : attempt.consultation? outside = some consultation)
    (writable : Writable attempt.directory (· = keyOf token) attempt.world.disk)
    (usable : consultation.call.settings.usableToken = some token) {feed : Feed}
    {finish : Time.Instant} (downloaded : consultation.call.Downloaded feed finish) :
    ∃ expiry, finish.later? Feed.lifetime = some expiry ∧
      fileContents attempt.directory consultation.world.disk (keyOf token) =
        some ⟨feed, expiry⟩ := by
  obtain ⟨put, loads, leaves⟩ := loads_of_consultation? consulted
  obtain ⟨expiry, limited, rfl⟩ := loads.put_of_downloaded usable downloaded
  refine ⟨expiry, limited, ?_⟩
  cases leaves with
  | @set before _ _ held disk =>
    rw [← held.1] at writable
    obtain ⟨_, contents⟩ := run_save outside writable rfl (fun _ used _ => used) ⟨feed, expiry⟩
    rw [disk]
    dsimp only [fileStore]
    rw [contents (keyOf token) rfl, Contents.put_same]

end Attempt
end QuizFeed.Command
