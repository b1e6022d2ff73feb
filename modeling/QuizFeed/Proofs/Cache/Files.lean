import QuizFeed.Proofs.Cache.Contents
import QuizFeed.Proofs.Cache.Document
import QuizFeed.Proofs.Cache.Naming
import QuizFeed.Proofs.Files.Following
import QuizFeed.Proofs.Files.Writing

/-!
# What the file store keeps

The contents of a file store are what can be read from the files in its directory
(`fileContents`). A disk is `Writable` for some keys when their files can be put there: the
directory is there or can be made and takes files, the paths of the files have less than 4096 bytes,
and no directory is in the place of a file. If moreover no files come to light when the directory is
made (`Accepts`), the file store keeps its contents, provided that no two keys have the same
fingerprint (`fileStore_keeps`).
-/

namespace QuizFeed.Cache

open Files

/-- A clock that stands still and a network that answers with nothing. -/
def idle : Outside Unit where
  now state := (.epoch, state)
  fetch _ state := (.ok .empty, state)

/-- What making sure of a directory answers, and the disk that it leaves. -/
def prepared (directory : Path) (disk : Disk) : Except WriteFailure Unit × Disk :=
  let result := (Program.ensureDirectory directory).run idle ⟨disk, [], [], [], ()⟩
  (result.1, result.2.disk)

/-- The snapshot that a file holds, if it holds one. -/
def snapshotOf? (content : ByteArray) : Option Snapshot :=
  (String.fromUTF8? content).bind fun text => (Snapshot.ofDocument text).toOption

/-- The snapshots that can be read from the files of a directory. -/
def fileContents (directory : Path) (disk : Disk) : Contents := fun key =>
  (disk.contentAt (filePath directory key)).toOption.bind snapshotOf?

/-- Whether files for some keys can be put into a directory: it is there or can be made, it takes
files, the paths of the files are shorter than 4096 bytes, and once the directory is there no
directory lies where a file belongs. -/
structure Writable (directory : Path) (keys : String → Prop) (disk : Disk) : Prop where
  made : (prepared directory disk).1 = .ok ()
  working : directory.text = "" → disk.isDirectory disk.working = true
  takes : ∀ size, disk.TakesFile directory size
  short : ∀ key, keys key → (filePath directory key).text.utf8ByteSize < Disk.pathLimit
  free : ∀ key, keys key →
    (prepared directory disk).2.isDirectory
      (disk.destination directory ++ [fileName key]) = false

/-- Whether a disk takes files for some keys in a directory, and shows all of them before the
directory is made sure of. -/
structure Accepts (directory : Path) (keys : String → Prop) (disk : Disk) : Prop
    extends Writable directory keys disk where
  shown : ∀ key, keys key →
    fileContents directory (prepared directory disk).2 key = fileContents directory disk key

variable {ε : Type} (outside : Outside ε) {directory : Path} {keys : String → Prop}
  {disk : Disk} {world : World ε} {key : String} {contents : Contents}

/-- Making sure of a directory does on every world what it does on its disk. -/
theorem run_ensureDirectory_eq_prepared (directory : Path) (world : World ε) :
    ((Program.ensureDirectory directory).run outside world).1 =
        (prepared directory world.disk).1 ∧
      ((Program.ensureDirectory directory).run outside world).2.disk =
        (prepared directory world.disk).2 :=
  ((Program.confined_ensureDirectory directory).mono fun _ =>
    Effect.OnDirectories.onDisk).run_onDisk rfl

/-- Making a directory ready makes no more than the directories on its path. -/
theorem prepared_grows (directory : Path) (disk : Disk) :
    disk.Grows (disk.Waypoint directory) (prepared directory disk).2 :=
  Program.ensureDirectory_grows idle directory ⟨disk, [], [], [], ()⟩

/-- A directory in which some keys are writable is one for fewer keys. -/
theorem Writable.mono {fewer : String → Prop} (writable : Writable directory keys disk)
    (less : ∀ key, fewer key → keys key) : Writable directory fewer disk :=
  ⟨writable.made, writable.working, writable.takes,
    fun key used => writable.short key (less key used),
    fun key used => writable.free key (less key used)⟩

/-- Decides whether files for a few keys can be put into a directory with a name. -/
def isWritable (directory : Path) (used : List String) (disk : Disk) : Bool :=
  let (made, after) := prepared directory disk
  let location := disk.destination directory
  directory.text != "" && made.toOption == some () && disk.fault location == {} &&
    disk.fitsTemporary directory && used.all fun key =>
      decide ((filePath directory key).text.utf8ByteSize < Disk.pathLimit) &&
        !after.isDirectory (location ++ [fileName key])

/-- The check of a few keys is enough if no others are used. -/
theorem writable_of_isWritable {used : List String} (few : ∀ key, keys key → key ∈ used)
    (checks : isWritable directory used disk = true) : Writable directory keys disk := by
  simp only [isWritable, Bool.and_eq_true, bne_iff_ne, beq_iff_eq, List.all_eq_true,
    decide_eq_true_eq, Bool.not_eq_true'] at checks
  obtain ⟨⟨⟨⟨named, made⟩, sound⟩, fits⟩, free⟩ := checks
  exact ⟨eq_ok_of_toOption made, fun empty => absurd empty named,
    Disk.takesFile_of_sound sound fits, fun key isKey => (free key (few key isKey)).1,
    fun key isKey => (free key (few key isKey)).2⟩

/-- A writable directory is there once it has been made ready. -/
theorem Writable.leads (writable : Writable directory keys disk) :
    ∃ location, (prepared directory disk).2.Leads directory location :=
  Program.leads_of_ensureDirectory idle _ ⟨disk, [], [], [], ()⟩ writable.working writable.made

/-- No file is in the place of a directory that can be written. -/
theorem Writable.node?_ne_file (writable : Writable directory keys disk) (content : ByteArray) :
    disk.node? (disk.destination directory) ≠ some (.file content) := by
  intro found
  have grows := prepared_grows directory disk
  obtain ⟨location, leads⟩ := writable.leads
  have isDirectory := leads.isDirectory
  rw [leads.eq_destination, Disk.destination_of_working grows.working, Disk.isDirectory_iff,
    grows.node?_of_some found] at isDirectory
  cases isDirectory

/-- A directory that is there is ready without a change to the disk. -/
theorem prepared_of_leads {location : Location} (leads : disk.Leads directory location) :
    prepared directory disk = (.ok (), disk) := by
  unfold prepared
  rw [Program.run_ensureDirectory_of_leads idle ⟨disk, [], [], [], ()⟩ leads]

/-- What is in a file can be read from it once the directory has been made sure of. -/
theorem contentAt_prepared {path : Path} {content : ByteArray}
    (found : disk.contentAt path = .ok content) :
    (prepared directory disk).2.contentAt path = .ok content := by
  have grows := prepared_grows directory disk
  exact Disk.contentAt_keeps grows.keepsDirectories found
    (grows.node?_of_some (Disk.node?_of_contentAt found))

/-- Whether a snapshot that can be read for a key can still be read afterwards. -/
def Preserves (directory : Path) (key : String) (before after : Disk) : Prop :=
  ∀ snapshot, fileContents directory before key = some snapshot →
    fileContents directory after key = some snapshot

/-- Writing another file leaves what can be read for a key. -/
theorem preserves_of_writes {places : Location → Prop} {target : Location} {before after : Disk}
    (writes : before.Writes places target after)
    (beside : before.destination directory ++ [fileName key] ≠ target) :
    Preserves directory key before after := by
  intro snapshot kept
  obtain ⟨content, found, isSnapshot⟩ := Option.bind_eq_some_iff.mp kept
  have still : after.contentAt (filePath directory key) = .ok content := by
    refine writes.contentAt (eq_ok_of_toOption found) ?_
    rwa [filePath, Disk.destination_child before directory (isSingle_fileName key)]
  rw [fileContents, still]
  exact isSnapshot

/-- Whether a directory is there, takes files, and holds nothing but files under the names of some
keys. -/
structure Ready (directory : Path) (location : Location) (keys : String → Prop) (disk : Disk) :
    Prop where
  leads : disk.Leads directory location
  takes : ∀ size, disk.TakesFile directory size
  checked : ∀ key, keys key → Disk.checkPath (filePath directory key) = .ok ()
  noDirectory : ∀ key, keys key → disk.isDirectory (location ++ [fileName key]) = false

variable {location : Location}

/-- Reading the file of a key gives what the node in its place holds. -/
theorem Ready.contentAt_eq (ready : Ready directory location keys disk) (used : keys key) :
    disk.contentAt (filePath directory key) =
      match disk.node? (location ++ [fileName key]) with
      | some (.file content) => .ok content
      | some .directory => .error .isDirectory
      | none => .error .notFound :=
  ready.leads.contentAt_child (isSingle_fileName key) (ready.checked key used)
    (utf8ByteSize_fileName_le key)

/-- Once the directory of a disk that can be written has been made sure of, it is ready. -/
theorem Writable.ready (writable : Writable directory keys disk) :
    ∃ location, Ready directory location keys (prepared directory disk).2 := by
  obtain ⟨location, leads⟩ := writable.leads
  have grows := prepared_grows directory disk
  refine ⟨location, leads,
    fun size => (writable.takes size).of_same grows.working grows.faults, fun key used => ?_,
    fun key used => ?_⟩
  · exact leads.checkPath_child (isSingle_fileName key) (null_notMem_fileName key)
      (writable.short key used)
  · rw [leads.eq_destination, Disk.destination_of_working grows.working]
    exact writable.free key used

/-- A disk whose directory is ready takes files. -/
theorem Ready.accepts (ready : Ready directory location keys disk) :
    Accepts directory keys disk := by
  have same := prepared_of_leads ready.leads
  refine ⟨⟨by rw [same], fun empty => ?_, ready.takes, fun key used => ?_, fun key used => ?_⟩,
    fun key used => by rw [same]⟩
  · rcases ready.leads.located with ⟨_, working⟩ | ⟨some, _⟩
    · rw [← working]
      exact ready.leads.isDirectory
    · exact absurd empty some
  · exact (Disk.checkPath_eq_ok.mp (ready.checked key used)).2.2
  · rw [same, ← ready.leads.eq_destination]
    exact ready.noDirectory key used

/-- The bytes that are saved for a snapshot are read back as it. -/
theorem snapshotOf?_document (snapshot : Snapshot) :
    snapshotOf? snapshot.document.toUTF8 = some snapshot := by
  rw [snapshotOf?, fromUTF8?_toUTF8, Option.bind_some, snapshot.ofDocument_document]
  rfl

/-- A directory that is ready is still ready after a file was written for a key. -/
theorem Ready.of_holds (ready : Ready directory location keys disk) {content : ByteArray}
    {after : Disk} (written : disk.Holds (location ++ [fileName key]) content after) :
    Ready directory location keys after := by
  refine ⟨ready.leads.keeps written.keepsDirectories,
    fun size => (ready.takes size).of_same written.working written.faults, ready.checked,
    fun other usedOther => ?_⟩
  rw [Bool.eq_false_iff]
  intro isDirectory
  rw [Disk.isDirectory_iff, written.node?_eq] at isDirectory
  split at isDirectory
  · cases isDirectory
  · have noDirectory := ready.noDirectory other usedOther
    rw [Disk.isDirectory_iff.mpr isDirectory] at noDirectory
    cases noDirectory

/-- A file that was written for a key is all that changes in a directory that is ready. -/
theorem Ready.fileContents_of_holds (ready : Ready directory location keys disk) (used : keys key)
    (apart : ∀ other, keys other → fingerprint other = fingerprint key → other = key)
    {snapshot : Snapshot} {after : Disk}
    (written : disk.Holds (location ++ [fileName key]) snapshot.document.toUTF8 after)
    {other : String} (usedOther : keys other) :
    fileContents directory after other =
      (fileContents directory disk).put key snapshot other := by
  have readyAfter := ready.of_holds written
  by_cases same : other = key
  · subst same
    rw [Contents.put_same, fileContents, readyAfter.contentAt_eq used, written.node?_eq,
      if_pos rfl]
    simp only [Except.toOption, Option.bind_some, snapshotOf?_document]
  · have beside : location ++ [fileName other] ≠ location ++ [fileName key] :=
      fun equal => same (apart other usedOther (concat_fileName_eq_iff.mp equal))
    rw [Contents.put_other _ _ same, fileContents, fileContents,
      readyAfter.contentAt_eq usedOther, ready.contentAt_eq usedOther, written.node?_eq,
      if_neg beside]

/-- Loading reads what is in the file of a key, and changes nothing but the records. -/
theorem run_load (directory : Path) (key : String) (world : World ε) :
    ∃ records, (load directory key).run outside world =
      (fileContents directory world.disk key, { world with records := records }) := by
  unfold load Program.readText fileContents
  dsimp only
  rw [Program.run_bind, Program.run_bind, Program.run_readFile]
  cases world.disk.contentAt (filePath directory key) with
  | error cause => cases cause <;> exact ⟨_, rfl⟩
  | ok content =>
    dsimp only [Except.toOption, Option.bind_some, snapshotOf?]
    cases String.fromUTF8? content with
    | none => exact ⟨_, rfl⟩
    | some text =>
      dsimp only [Option.bind_some, Program.run_pure]
      cases Snapshot.ofDocument text <;> exact ⟨_, rfl⟩

/-- What saving does to the disk is what writing the file does. -/
theorem disk_save (directory : Path) (key : String) (snapshot : Snapshot) (world : World ε) :
    ((save directory key snapshot).run outside world).2.disk =
      ((Program.writeFile directory (fileName key) snapshot.document.toUTF8).run outside
        world).2.disk := by
  unfold save
  rw [Program.run_bind]
  split <;> rfl

/-- Loading a snapshot asks neither clock nor network. -/
theorem quiet_load (directory : Path) (key : String) :
    (load directory key).Confined Effect.IsQuiet := by
  refine (Program.quiet_readText _).bind fun answer => ?_
  split
  · exact Program.confined_pure _
  · exact (Program.quiet_report _ _ _).bind fun _ => Program.confined_pure _
  · split <;> exact (Program.quiet_report _ _ _).bind fun _ => Program.confined_pure _

/-- Saving a snapshot asks neither clock nor network. -/
theorem quiet_save (directory : Path) (key : String) (snapshot : Snapshot) :
    (save directory key snapshot).Confined Effect.IsQuiet := by
  have write := (Program.confined_writeFile directory (fileName key)
    snapshot.document.toUTF8).mono fun _ => Effect.OnDisk.isQuiet
  refine write.bind fun answer => ?_
  split
  · exact Program.confined_pure _
  · exact Program.quiet_report _ _ _

/-- Saving for a key in use makes sure of the directory and writes the file of the key. -/
theorem holds_save (writable : Writable directory keys world.disk) (used : keys key)
    (snapshot : Snapshot) :
    ∃ location, Ready directory location keys (prepared directory world.disk).2 ∧
      (prepared directory world.disk).2.Holds (location ++ [fileName key])
        snapshot.document.toUTF8 ((save directory key snapshot).run outside world).2.disk := by
  obtain ⟨location, ready⟩ := writable.ready
  obtain ⟨ensured, disk⟩ := run_ensureDirectory_eq_prepared outside directory world
  refine ⟨location, ready, ?_⟩
  rw [writable.made] at ensured
  rw [← disk] at ready ⊢
  rw [disk_save, Program.run_writeFile_of_ensured outside _ ensured ready.leads]
  have success := Program.run_writeFile_ok outside snapshot.document.toUTF8 ready.leads
    (ready.takes _) (isSingle_fileName key) (ready.checked key used) (utf8ByteSize_fileName_le key)
    (ready.noDirectory key used)
  rcases Program.run_writeFile_of_leads outside snapshot.document.toUTF8 ready.leads
    (isSingle_fileName key) with ⟨written, run, holds, _⟩ | ⟨_, _, run, _⟩
  · rwa [run]
  · rw [run] at success
    cases success

/-- Saving for a key in use writes its file, and leaves what could be read once the directory was
made sure of. -/
theorem run_save (writable : Writable directory keys world.disk) (used : keys key)
    (apart : ∀ other, keys other → fingerprint other = fingerprint key → other = key)
    (snapshot : Snapshot) :
    let after := ((save directory key snapshot).run outside world).2
    Accepts directory keys after.disk ∧ ∀ other, keys other →
      fileContents directory after.disk other =
        (fileContents directory (prepared directory world.disk).2).put key snapshot other := by
  intro after
  obtain ⟨location, ready, holds⟩ := holds_save outside writable used snapshot
  constructor
  · exact (ready.of_holds holds).accepts
  · intro other usedOther
    exact ready.fileContents_of_holds used apart holds usedOther

/-- Saving for a key that does not share its fingerprint leaves what can be read for another key. -/
theorem preserves_save {other : String} (apart : fingerprint other ≠ fingerprint key)
    (snapshot : Snapshot) (world : World ε) :
    Preserves directory other world.disk
      ((save directory key snapshot).run outside world).2.disk := by
  rw [disk_save]
  refine preserves_of_writes
    (Program.writeFile_writes outside _ directory (isSingle_fileName key) world) ?_
  exact fun same => apart (concat_fileName_eq_iff.mp same)

/-- The file store reports what can be read from its directory. -/
theorem fileStore_reads (keys : String → Prop) (directory : Path) (disk : Disk) :
    (fileStore directory).Reads outside keys
      fun world contents => world.disk = disk ∧ contents = fileContents directory disk where
  settled := by
    rintro before after contents ⟨same, isContents⟩ kept -
    exact ⟨kept.trans same, isContents⟩
  get_eq := by
    rintro world contents key ⟨rfl, rfl⟩ -
    obtain ⟨records, run⟩ := run_load outside directory key world
    dsimp only [fileStore]
    rw [run]
  get_holds := by
    rintro world contents key ⟨rfl, rfl⟩ -
    obtain ⟨records, run⟩ := run_load outside directory key world
    dsimp only [fileStore]
    rw [run]
    exact ⟨rfl, rfl⟩
  get_events := fun world key => (quiet_load directory key).events_quiet world
  set_events := fun world key snapshot => (quiet_save directory key snapshot).events_quiet world

/-- Whether a disk takes files for some keys, under which its files hold some contents. -/
structure Stored (directory : Path) (keys : String → Prop) (disk : Disk) (contents : Contents) :
    Prop where
  accepts : Accepts directory keys disk
  contents_eq : ∀ key, keys key → contents key = fileContents directory disk key

/-- The file store keeps what can be read from its directory, if no two keys in use have the same
fingerprint. -/
theorem fileStore_keeps (directory : Path)
    (apart : ∀ first second, keys first → keys second → fingerprint first = fingerprint second →
      first = second) :
    (fileStore directory).Keeps outside keys
      fun world contents => Stored directory keys world.disk contents where
  settled := by
    rintro before after contents held disk -
    rwa [disk]
  get_eq := by
    rintro world contents key held used
    have reads := fileStore_reads outside keys directory world.disk
    rw [reads.get_eq ⟨rfl, rfl⟩ used, held.contents_eq key used]
  get_holds := by
    rintro world contents key held used
    have reads := fileStore_reads outside keys directory world.disk
    rwa [(reads.get_holds ⟨rfl, rfl⟩ used).1]
  get_events := fun world key => (quiet_load directory key).events_quiet world
  set_holds := by
    rintro world contents key snapshot held used
    obtain ⟨accepts, contentsAfter⟩ := run_save outside held.accepts.toWritable used
      (fun other usedOther => apart other key usedOther used) snapshot
    refine ⟨accepts, fun other usedOther => ?_⟩
    dsimp only [fileStore]
    rw [contentsAfter other usedOther, Contents.put, Contents.put,
      held.contents_eq other usedOther, held.accepts.shown other usedOther]
  set_events := fun world key snapshot => (quiet_save directory key snapshot).events_quiet world

end QuizFeed.Cache
