import QuizFeed.Proofs.Cache.Files

/-!
# The bytes of cached feeds

What lies at the place of the file for a key is there whether or not the path of the directory can
be followed yet. Making directories leaves the bytes of all files (`Disk.bytesAt_of_grows`), and so
does every write beside them (`Disk.bytesAt_of_writes`); saving replaces those of one file by a
document, or leaves them as well (`bytesAt_save`). Where a directory can be written it does replace
them (`save_writes`), and then what is read for a key is what these bytes say
(`Ready.fileContents_eq`).
-/

namespace QuizFeed

open Files

/-- The content of a file. -/
def Files.Node.content? : Node → Option ByteArray
  | .file content => some content
  | .directory => none

namespace Files.Disk

variable {before after : Disk} {places : Location → Prop} {target location : Location}
  {content : ByteArray}

/-- The bytes of the file at a location, if there is a file. -/
def bytesAt (disk : Disk) (location : Location) : Option ByteArray :=
  (disk.node? location).bind Node.content?

/-- Directories that are made are no files. -/
theorem bytesAt_of_grows (grows : before.Grows places after) :
    after.bytesAt location = before.bytesAt location := by
  unfold bytesAt
  rcases grows.nodes location with same | ⟨_, absent, present⟩
  · rw [same]
  · rw [absent, present]
    rfl

/-- Writing a file leaves the bytes of the others. -/
theorem bytesAt_of_writes (writes : before.Writes places target after)
    (beside : location ≠ target) : after.bytesAt location = before.bytesAt location := by
  unfold bytesAt
  rcases writes.nodes beside with same | ⟨_, absent, present⟩
  · rw [same]
  · rw [absent, present]
    rfl

/-- A file that is replaced has its new bytes, and all others have their old ones. -/
theorem bytesAt_of_holds (holds : before.Holds target content after) (location : Location) :
    after.bytesAt location =
      if location = target then some content else before.bytesAt location := by
  unfold bytesAt
  rw [holds.node?_eq]
  split <;> rfl

end Files.Disk

namespace Cache

/-- The bytes that lie at the place of the file for a key, if there is a file. -/
def fileBytes (directory : Path) (disk : Disk) (key : String) : Option ByteArray :=
  disk.bytesAt (disk.destination directory ++ [fileName key])

variable {directory : Path} {disk before after : Disk} {key other : String}
  {keys : String → Prop} {places : Location → Prop} {target location : Location}
  {snapshot : Snapshot}

/-- Keys with one fingerprint share a file. -/
theorem fileContents_of_fingerprint (same : fingerprint other = fingerprint key) :
    fileContents directory disk other = fileContents directory disk key := by
  unfold fileContents filePath
  rw [fileName_eq_iff.mpr same]

/-- A snapshot that is read for a key is read from the bytes of its file. -/
theorem exists_of_fileContents (kept : fileContents directory disk key = some snapshot) :
    ∃ content, fileBytes directory disk key = some content ∧
      snapshotOf? content = some snapshot := by
  obtain ⟨content, found, isSnapshot⟩ := Option.bind_eq_some_iff.mp kept
  have there := Disk.node?_of_contentAt (eq_ok_of_toOption found)
  unfold filePath at there
  rw [Disk.destination_child _ _ (isSingle_fileName key)] at there
  refine ⟨content, ?_, isSnapshot⟩
  unfold fileBytes Disk.bytesAt
  rw [there]
  rfl

/-- A file that is not there holds no snapshot. -/
theorem fileContents_of_absent (absent : fileBytes directory disk key = none) :
    fileContents directory disk key = none := by
  rw [Option.eq_none_iff_forall_ne_some]
  intro snapshot kept
  obtain ⟨content, there, _⟩ := exists_of_fileContents kept
  rw [absent] at there
  cases there

/-- In a directory that is ready, what is read for a key is what the bytes of its file say. -/
theorem Ready.fileContents_eq (ready : Ready directory location keys disk) (used : keys key) :
    fileContents directory disk key = (fileBytes directory disk key).bind snapshotOf? := by
  unfold fileContents fileBytes Disk.bytesAt
  rw [ready.contentAt_eq used, ready.leads.eq_destination]
  cases disk.node? (disk.destination directory ++ [fileName key]) with
  | none => rfl
  | some node => cases node <;> rfl

/-- Writing another file leaves the bytes for a key. -/
theorem fileBytes_of_writes (writes : before.Writes places target after)
    (beside : before.destination directory ++ [fileName key] ≠ target) :
    fileBytes directory after key = fileBytes directory before key := by
  unfold fileBytes
  rw [Disk.destination_of_working writes.keepsDirectories.working,
    Disk.bytesAt_of_writes writes beside]

variable {ε : Type} (outside : Outside ε) {world : World ε}

/-- Saving leaves where a directory belongs. -/
theorem destination_save (directory : Path) (key : String) (snapshot : Snapshot)
    (world : World ε) :
    ((save directory key snapshot).run outside world).2.disk.destination directory =
      world.disk.destination directory := by
  have writes := Program.writeFile_writes outside snapshot.document.toUTF8 directory
    (isSingle_fileName key) world
  rw [← disk_save] at writes
  exact Disk.destination_of_working writes.keepsDirectories.working directory

/-- Saving puts the document of a snapshot into the file for its key, or leaves all files as they
were. -/
theorem bytesAt_save (directory : Path) (key : String) (snapshot : Snapshot) (world : World ε) :
    let after := ((save directory key snapshot).run outside world).2.disk
    (∀ location, after.bytesAt location = world.disk.bytesAt location) ∨
      ∀ location, after.bytesAt location =
        if location = world.disk.destination directory ++ [fileName key] then
          some snapshot.document.toUTF8
        else world.disk.bytesAt location := by
  intro after
  have disk := disk_save outside directory key snapshot world
  obtain ⟨made, grows, ⟨_, alike⟩ | ⟨_, place, leads, holds, _⟩⟩ :=
    Program.writeFile_cases outside snapshot.document.toUTF8 directory (isSingle_fileName key) world
  · left
    intro location
    rw [← Disk.bytesAt_of_grows grows]
    unfold after Disk.bytesAt
    rw [disk, alike.node?_eq]
  · right
    intro location
    unfold after
    rw [disk, Disk.bytesAt_of_holds holds, Disk.bytesAt_of_grows grows, leads.eq_destination,
      Disk.destination_of_working grows.working]

/-- Saving for a key decides on the bytes for all keys with its fingerprint, or for none. -/
theorem fileBytes_save (directory : Path) (key : String) (snapshot : Snapshot) (world : World ε) :
    let after := ((save directory key snapshot).run outside world).2.disk
    (∀ other, fileBytes directory after other = fileBytes directory world.disk other) ∨
      ∀ other, fileBytes directory after other =
        if fingerprint other = fingerprint key then some snapshot.document.toUTF8
        else fileBytes directory world.disk other := by
  intro after
  unfold fileBytes after
  rw [destination_save]
  rcases bytesAt_save outside directory key snapshot world with same | written
  · exact .inl fun other => same _
  · right
    intro other
    rw [written]
    simp only [concat_fileName_eq_iff]

/-- Saving for a key in use, where the directory can be written, puts the document into the file
for the key. -/
theorem save_writes (writable : Writable directory keys world.disk) (used : keys key)
    (snapshot : Snapshot) :
    let after := ((save directory key snapshot).run outside world).2.disk
    (∃ location, Ready directory location keys after) ∧
      ∀ other, fileBytes directory after other =
        if fingerprint other = fingerprint key then some snapshot.document.toUTF8
        else fileBytes directory world.disk other := by
  intro after
  obtain ⟨location, ready, holds⟩ := holds_save outside writable used snapshot
  refine ⟨⟨location, ready.of_holds holds⟩, fun other => ?_⟩
  have grows := prepared_grows directory world.disk
  unfold fileBytes after
  rw [destination_save, Disk.bytesAt_of_holds holds, Disk.bytesAt_of_grows grows,
    ready.leads.eq_destination, Disk.destination_of_working grows.working]
  simp only [concat_fileName_eq_iff]

end Cache
end QuizFeed
