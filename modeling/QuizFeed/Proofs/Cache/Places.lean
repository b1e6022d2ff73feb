import QuizFeed.Proofs.Cache.Files

/-!
# Places where feeds are kept

A place is the memory or a directory. What putting a snapshot under a key does to another key is
told by `Place.Alike`: two worlds are alike for a key when a store could not tell them apart by that
key, now or after the same was put under it (`Alike.set`). Putting something under a key apart from
it leaves worlds alike (`Alike.set_apart`).
-/

namespace QuizFeed.Cache

open Files

/-- Where feeds are kept. -/
inductive Place where
  | memory
  | files (directory : Path)

namespace Place

variable {ε : Type}

/-- The store of a place. -/
def store : Place → Store
  | memory => memoryStore
  | files directory => fileStore directory

/-- What can be read from a place. -/
def contents : Place → World ε → Contents
  | memory, world => memoryContents world.memory
  | files directory, world => fileContents directory world.disk

/-- Whether worlds do not differ in what a place consists of: the memory, or all files and
directories. -/
def Same : Place → World ε → World ε → Prop
  | memory, before, after => after.memory = before.memory
  | files _, before, after => after.disk = before.disk

/-- A world with the state of a place taken from another one. -/
def carry : Place → World ε → World ε → World ε
  | memory, world, shared => { world with memory := shared.memory }
  | files _, world, shared => { world with disk := shared.disk }

/-- A place is the same as itself. -/
theorem same_refl (place : Place) (world : World ε) : place.Same world world := by
  cases place <;> rfl

/-- What a world takes over from another one is the place as it is there. -/
theorem same_carry (place : Place) (world shared : World ε) :
    place.Same shared (place.carry world shared) := by
  cases place <;> rfl

@[simp] theorem outside_carry (place : Place) (world shared : World ε) :
    (place.carry world shared).outside = world.outside := by
  cases place <;> rfl

/-- A place is the same if disk and memory are. -/
theorem same_of_disk_memory (place : Place) {before after : World ε}
    (disk : after.disk = before.disk) (memory : after.memory = before.memory) :
    place.Same before after := by
  cases place with
  | memory => exact memory
  | files => exact disk

/-- Whether a place is as it was in a start, where some contents could be read from it. -/
def Holds (place : Place) (start world : World ε) (contents : Contents) : Prop :=
  place.Same start world ∧ contents = place.contents start

/-- The store of a place reports what can be read from the place. -/
theorem reads (outside : Outside ε) (place : Place) (start : World ε) :
    place.store.Reads outside (fun _ => True) (place.Holds start) := by
  cases place with
  | memory =>
    refine ⟨?_, ?_, ?_, (memoryStore_keeps outside).get_events,
      (memoryStore_keeps outside).set_events⟩
    · rintro before after _ ⟨same, rfl⟩ - kept
      exact ⟨kept.trans same, rfl⟩
    · rintro world _ key ⟨same, rfl⟩ -
      exact congrFun (congrArg memoryContents same) key
    · rintro world _ key ⟨same, rfl⟩ -
      exact ⟨same, rfl⟩
  | files directory => exact fileStore_reads outside _ directory start.disk

end Place

/-- Whether a directory is there, or can be made without anything coming to light for a key. -/
structure Available (directory : Path) (key : String) (disk : Disk) : Prop where
  made : (prepared directory disk).1 = .ok ()
  working : directory.text = "" → disk.isDirectory disk.working = true
  shown : fileContents directory (prepared directory disk).2 key = fileContents directory disk key

/-- What is at the place of the file for a key once the directory has been made sure of. -/
def slot (directory : Path) (key : String) (disk : Disk) : Option Node :=
  (prepared directory disk).2.node? (disk.destination directory ++ [fileName key])

section Slots

variable {directory : Path} {key other : String} {disk first second : Disk} {location : Location}

/-- A directory that is there is available. -/
theorem available_of_leads (leads : disk.Leads directory location) :
    Available directory key disk := by
  have same := prepared_of_leads leads
  refine ⟨by rw [same], fun empty => ?_, by rw [same]⟩
  rcases leads.located with ⟨_, working⟩ | ⟨named, _⟩
  · rw [← working]
    exact leads.isDirectory
  · exact absurd empty named

/-- The slot of a key in a directory that is there is the node in its place. -/
theorem slot_of_leads (leads : disk.Leads directory location) :
    slot directory key disk = disk.node? (location ++ [fileName key]) := by
  unfold slot
  rw [prepared_of_leads leads, leads.eq_destination]

/-- An available directory is there once it has been made ready. -/
theorem Available.leads (available : Available directory key disk) :
    (prepared directory disk).2.Leads directory (disk.destination directory) := by
  have found : ∃ location, (prepared directory disk).2.Leads directory location :=
    Program.leads_of_ensureDirectory idle _ ⟨disk, [], [], [], ()⟩ available.working available.made
  obtain ⟨location, leads⟩ := found
  have same := leads.eq_destination
  rw [Disk.destination_of_working (prepared_grows directory disk).working] at same
  exact same ▸ leads

/-- What can be read for a key is decided by what is at the place of its file. -/
theorem fileContents_eq_of_slot (available : Available directory key first)
    (availableSecond : Available directory key second)
    (same : slot directory key first = slot directory key second) :
    fileContents directory first key = fileContents directory second key := by
  unfold slot at same
  rw [← available.shown, ← availableSecond.shown]
  unfold fileContents
  -- A path that is too long leads to no file, whatever is at its place.
  by_cases checked : Disk.checkPath (filePath directory key) = .ok ()
  · have single := isSingle_fileName key
    have short := utf8ByteSize_fileName_le key
    unfold filePath at checked ⊢
    rw [available.leads.contentAt_child single checked short,
      availableSecond.leads.contentAt_child single checked short, same]
  · have unreadable : ∀ disk : Disk,
        (disk.contentAt (filePath directory key)).toOption = none := by
      intro disk
      cases found : disk.contentAt (filePath directory key) with
      | error cause => rfl
      | ok content =>
        obtain ⟨location, located, _⟩ := Disk.contentAt_eq_ok.mp found
        exact absurd (Disk.checkPath_of_locate located) checked
    rw [unreadable, unreadable]

end Slots

section Saving

variable {ε : Type} (outside : Outside ε) {directory : Path} {key other : String}
  {world : World ε}

/-- Saving in a directory that is available leaves its file, or nothing more than the directory. -/
theorem save_cases (available : Available directory other world.disk) (key : String)
    (snapshot : Snapshot) :
    let before := (prepared directory world.disk).2
    let location := world.disk.destination directory
    let after := ((save directory key snapshot).run outside world).2.disk
    let content := snapshot.document.toUTF8
    after.Leads directory location ∧
      (Disk.checkPath (filePath directory key) = .ok () ∧
          before.TakesFile directory content.size ∧
          before.Holds (location ++ [fileName key]) content after ∨
        before.Alike after ∧ (Disk.checkPath (filePath directory key) = .ok () →
          before.TakesFile directory content.size →
          before.isDirectory (location ++ [fileName key]) = true)) := by
  intro before location after content
  obtain ⟨ensured, disk⟩ := run_ensureDirectory_eq_prepared outside directory world
  have leads := available.leads
  rw [available.made] at ensured
  rw [← disk] at leads
  unfold after
  rw [disk_save, Program.run_writeFile_of_ensured outside _ ensured leads]
  have success takes :=
    Program.run_writeFile_ok outside content leads takes (isSingle_fileName key)
  rcases Program.run_writeFile_of_leads outside content leads (isSingle_fileName key) with
    ⟨written, run, holds, checked, takes⟩ | ⟨left, _, run, alike⟩
  · rw [run]
    rw [disk] at holds leads takes
    exact ⟨leads.keeps holds.keepsDirectories, .inl ⟨checked, takes, holds⟩⟩
  · rw [run] at success ⊢
    rw [disk] at alike leads success
    refine ⟨?_, .inr ⟨alike, fun checked takes => Bool.of_not_eq_false fun noDirectory => ?_⟩⟩
    · refine leads.keeps ⟨alike.working, fun place isDirectory => ?_⟩
      rwa [Disk.isDirectory_iff, alike.node?_eq, ← Disk.isDirectory_iff]
    · have written := success takes checked (utf8ByteSize_fileName_le key) noDirectory
      cases written

/-- Saving leaves where relative paths start, and the faults of directories. -/
theorem ground_save (available : Available directory other world.disk) (key : String)
    (snapshot : Snapshot) :
    let after := ((save directory key snapshot).run outside world).2.disk
    after.working = world.disk.working ∧ after.faults = world.disk.faults := by
  intro after
  have grows := prepared_grows directory world.disk
  obtain ⟨_, ⟨_, _, holds⟩ | ⟨alike, _⟩⟩ := save_cases outside available key snapshot
  · exact ⟨holds.working.trans grows.working, holds.faults.trans grows.faults⟩
  · exact ⟨alike.working.trans grows.working, alike.faults.trans grows.faults⟩

/-- Saving for a key puts its document into its place, if the path is short enough, the directory
takes the document and no directory is in that place. -/
theorem slot_save (available : Available directory key world.disk) (snapshot : Snapshot) :
    let before := slot directory key world.disk
    let after := slot directory key ((save directory key snapshot).run outside world).2.disk
    let content := snapshot.document.toUTF8
    let takes := Disk.checkPath (filePath directory key) = .ok () ∧
      world.disk.TakesFile directory content.size ∧ before ≠ some .directory
    (takes → after = some (.file content)) ∧ (¬ takes → after = before) := by
  intro before after content takes
  have grows := prepared_grows directory world.disk
  obtain ⟨leads, ⟨checked, taken, holds⟩ | ⟨alike, blocked⟩⟩ :=
    save_cases outside available key snapshot
  · have free : takes := by
      refine ⟨checked, taken.of_same grows.working.symm grows.faults.symm, fun isDirectory => ?_⟩
      have noDirectory := holds.noDirectory
      rw [Disk.isDirectory_iff.mpr isDirectory] at noDirectory
      cases noDirectory
    refine ⟨fun _ => ?_, fun refused => absurd free refused⟩
    unfold after
    rw [slot_of_leads leads, holds.node?_eq, if_pos rfl]
  · refine ⟨fun ⟨checked, taken, free⟩ => ?_, fun _ => ?_⟩
    · have isDirectory := blocked checked (taken.of_same grows.working grows.faults)
      exact absurd (Disk.isDirectory_iff.mp isDirectory) free
    · unfold after
      rw [slot_of_leads leads, alike.node?_eq]
      rfl

/-- Saving for a key with another fingerprint leaves what is in the place of a file. -/
theorem slot_save_apart (available : Available directory key world.disk)
    (apart : fingerprint other ≠ fingerprint key) (snapshot : Snapshot) :
    slot directory key ((save directory other snapshot).run outside world).2.disk =
      slot directory key world.disk := by
  have beside : world.disk.destination directory ++ [fileName key] ≠
      world.disk.destination directory ++ [fileName other] := by
    exact fun same => apart (concat_fileName_eq_iff.mp same).symm
  obtain ⟨leads, ⟨_, _, holds⟩ | ⟨alike, _⟩⟩ := save_cases outside available other snapshot
  · rw [slot_of_leads leads, holds.node?_eq, if_neg beside]
    rfl
  · rw [slot_of_leads leads, alike.node?_eq]
    rfl

end Saving

namespace Place

/-- Whether a store could not tell two worlds apart by a key, now or after more was put into it. -/
def Alike {ε : Type} : Place → String → World ε → World ε → Prop
  | memory, key, first, second => memoryContents first.memory key = memoryContents second.memory key
  | files directory, key, first, second =>
    Available directory key first.disk ∧ Available directory key second.disk ∧
      (second.disk.working = first.disk.working ∧ second.disk.faults = first.disk.faults) ∧
      slot directory key first.disk = slot directory key second.disk

/-- Whether what is put under a key leaves what is under another one: in a directory, keys with one
fingerprint share a file. -/
def Apart : Place → String → String → Prop
  | memory, first, second => first ≠ second
  | files _, first, second => fingerprint first ≠ fingerprint second

variable {ε : Type} {outside : Outside ε} {place : Place} {key other : String}
  {first second after afterSecond : World ε}

/-- Places that are alike under a key have the same contents there. -/
theorem Alike.contents_eq (alike : place.Alike key first second) :
    place.contents first key = place.contents second key := by
  cases place with
  | memory => exact alike
  | files directory => exact fileContents_eq_of_slot alike.1 alike.2.1 alike.2.2.2

/-- Places remain alike as long as nothing changes in either. -/
theorem Alike.of_same (alike : place.Alike key first second) (same : place.Same first after)
    (sameSecond : place.Same second afterSecond) : place.Alike key after afterSecond := by
  cases place with
  | memory =>
    change memoryContents after.memory key = memoryContents afterSecond.memory key
    rw [show after.memory = _ from same, show afterSecond.memory = _ from sameSecond]
    exact alike
  | files directory =>
    change Available directory key after.disk ∧ Available directory key afterSecond.disk ∧
      (afterSecond.disk.working = after.disk.working ∧
        afterSecond.disk.faults = after.disk.faults) ∧
      slot directory key after.disk = slot directory key afterSecond.disk
    rw [show after.disk = _ from same, show afterSecond.disk = _ from sameSecond]
    exact alike

/-- Worlds stay alike for a key when the same is put under it. -/
theorem Alike.set (alike : place.Alike key first second) (snapshot : Snapshot) :
    place.Alike key ((place.store.set key snapshot).run outside first).2
      ((place.store.set key snapshot).run outside second).2 := by
  cases place with
  | memory =>
    change memoryContents ((key, snapshot) :: first.memory) key =
      memoryContents ((key, snapshot) :: second.memory) key
    rw [memoryContents_cons, memoryContents_cons, Contents.put_same, Contents.put_same]
  | files directory =>
    obtain ⟨available, availableSecond, ⟨working, faults⟩, same⟩ := alike
    obtain ⟨leads, _⟩ := save_cases outside available key snapshot
    obtain ⟨leadsSecond, _⟩ := save_cases outside availableSecond key snapshot
    obtain ⟨workingAfter, faultsAfter⟩ := ground_save outside available key snapshot
    obtain ⟨workingSecond, faultsSecond⟩ := ground_save outside availableSecond key snapshot
    refine ⟨available_of_leads leads, available_of_leads leadsSecond,
      ⟨workingSecond.trans (working.trans workingAfter.symm),
        faultsSecond.trans (faults.trans faultsAfter.symm)⟩, ?_⟩
    obtain ⟨taken, refused⟩ := slot_save outside available snapshot
    obtain ⟨takenSecond, refusedSecond⟩ := slot_save outside availableSecond snapshot
    -- What the two directories take is decided by the same faults.
    have takesIff : second.disk.TakesFile directory snapshot.document.toUTF8.size ↔
        first.disk.TakesFile directory snapshot.document.toUTF8.size :=
      ⟨fun takes => takes.of_same working.symm faults.symm,
        fun takes => takes.of_same working faults⟩
    rw [← same, takesIff] at takenSecond refusedSecond
    by_cases takes : Disk.checkPath (filePath directory key) = .ok () ∧
        first.disk.TakesFile directory snapshot.document.toUTF8.size ∧
        slot directory key first.disk ≠ some .directory
    · exact (taken takes).trans (takenSecond takes).symm
    · exact (refused takes).trans (refusedSecond takes).symm

/-- Worlds stay alike for a key when something is put under a key apart from it in one of them. -/
theorem Alike.set_apart (alike : place.Alike key first second) (apart : place.Apart other key)
    (snapshot : Snapshot) :
    place.Alike key ((place.store.set other snapshot).run outside first).2 second := by
  cases place with
  | memory =>
    change memoryContents ((other, snapshot) :: first.memory) key =
      memoryContents second.memory key
    rw [memoryContents_cons, Contents.put_other _ _ (Ne.symm apart)]
    exact alike
  | files directory =>
    obtain ⟨available, availableSecond, ⟨working, faults⟩, same⟩ := alike
    obtain ⟨leads, _⟩ := save_cases outside available other snapshot
    obtain ⟨workingAfter, faultsAfter⟩ := ground_save outside available other snapshot
    exact ⟨available_of_leads leads, availableSecond,
      ⟨working.trans workingAfter.symm, faults.trans faultsAfter.symm⟩,
      (slot_save_apart outside available apart snapshot).trans same⟩

variable {contents others : Contents} {put : Option (String × Snapshot)}

/-- Worlds that are alike for a key are left alike, if nothing is put or the same under that key. -/
theorem Alike.of_leaves (alike : place.Alike key first second)
    (leaves : place.store.Leaves outside (place.Holds first) contents after put)
    (leavesSecond : place.store.Leaves outside (place.Holds second) others afterSecond put)
    (own : ∀ used snapshot, put = some (used, snapshot) → used = key) :
    place.Alike key after afterSecond := by
  cases leaves with
  | same held =>
    cases leavesSecond with
    | same heldSecond => exact alike.of_same held.1 heldSecond.1
  | @set before used snapshot held disk memory =>
    obtain rfl := own used snapshot rfl
    cases leavesSecond with
    | set heldSecond diskSecond memorySecond =>
      exact ((alike.of_same held.1 heldSecond.1).set snapshot).of_same
        (place.same_of_disk_memory disk memory)
        (place.same_of_disk_memory diskSecond memorySecond)

/-- Worlds that are alike for a key stay alike when nothing is put into one of them, or something
under a key apart. -/
theorem Alike.of_leaves_apart (alike : place.Alike key first second)
    (leaves : place.store.Leaves outside (place.Holds first) contents after put)
    (apart : ∀ used snapshot, put = some (used, snapshot) → place.Apart used key) :
    place.Alike key after second := by
  cases leaves with
  | same held => exact alike.of_same held.1 (place.same_refl second)
  | @set before used snapshot held disk memory =>
    have kept := alike.of_same held.1 (place.same_refl second)
    exact (kept.set_apart (apart used snapshot rfl) snapshot).of_same
      (place.same_of_disk_memory disk memory) (place.same_refl second)

end Place
end QuizFeed.Cache
