import QuizFeed.Proofs.Files.Making

/-!
# Writing files as a whole

The temporary file always gets a name that is free (`Disk.node?_freeNumber`), so it takes the place
of nothing. Making it, filling it and moving it may each fail, and a file that was filled in part is
removed like any other (`Program.run_writeFile_cases`). After `Program.writeFile` the disk is as it
was, but for directories that were made on the way, and for the file if it was written
(`Program.writeFile_writes`). A file with a single name is written where its directory takes it
(`Disk.TakesFile`, `Program.run_writeFile_ok`), and only there (`Program.run_writeFile_of_leads`).
-/

namespace QuizFeed

namespace Files

/-- A device with a fault puts all bytes into a file, unless it fails at them. -/
theorem Fault.fst_filled {fault : Fault} {size : Nat} (whole : (fault.filled size).2 = none) :
    (fault.filled size).1 = size := by
  unfold filled at whole ⊢
  cases found : fault.growing with
  | none => rfl
  | some limit =>
    obtain ⟨room, cause⟩ := limit
    rw [found] at whole
    dsimp only at whole ⊢
    split
    case isTrue isOver =>
      rw [if_pos isOver] at whole
      cases whole
    case isFalse => rfl

namespace Disk

variable {disk : Disk} {directory : Path} {location temporary : Location} {name : String}
  {content : ByteArray}

/-- Temporary names differ if their numbers do. -/
theorem temporaryName_injective {first second : Nat}
    (same : temporaryName first = temporaryName second) : first = second := by
  have lists := congrArg String.toList same
  simp only [temporaryName, String.toList_append, List.append_cancel_left_eq] at lists
  have digits : Nat.toDigits 10 first = Nat.toDigits 10 second := by
    simpa only [toString, Nat.toList_repr] using lists
  have values := congrArg (Nat.ofDigitChars 10 · 0) digits
  simpa only [Nat.ofDigitChars_ten_toDigits] using values

/-- A name that is not free has only such names before it. -/
theorem taken_of_freeNumber_taken {start fuel : Nat}
    (taken : (disk.node? (location ++
      [temporaryName (disk.freeNumber location start fuel)])).isSome = true)
    {number : Nat} (from_ : start ≤ number) (before : number < start + fuel) :
    (disk.node? (location ++ [temporaryName number])).isSome = true := by
  induction fuel generalizing start with
  | zero => omega
  | succ fuel inductionHypothesis =>
    unfold freeNumber at taken
    split at taken
    case isTrue first =>
      by_cases same : number = start
      · rw [same]
        exact first
      · exact inductionHypothesis taken (by omega) (by omega)
    case isFalse free => exact absurd taken free

/-- A node below the root is one of the list. -/
theorem mem_nodes_of_node? (below : location ≠ []) (some : (disk.node? location).isSome = true) :
    location ∈ disk.nodes.map Prod.fst := by
  unfold node? at some
  rw [if_neg below] at some
  generalize disk.nodes = nodes at some
  induction nodes with
  | nil => cases some
  | cons entry rest inductionHypothesis =>
    obtain ⟨present, node⟩ := entry
    rw [lookup_entry] at some
    by_cases same : location = present
    · rw [same]
      exact List.mem_cons_self ..
    · rw [if_neg same] at some
      exact List.mem_cons_of_mem _ (inductionHypothesis some)

/-- A disk has fewer nodes than names are tried, so the one that is found is free. -/
theorem node?_freeNumber (disk : Disk) (location : Location) :
    disk.node? (location ++
      [temporaryName (disk.freeNumber location 0 (disk.nodes.length + 1))]) = none := by
  cases found : disk.node? (location ++
      [temporaryName (disk.freeNumber location 0 (disk.nodes.length + 1))]) with
  | none => rfl
  | some node =>
    have allTaken : ∀ number < disk.nodes.length + 1,
        (disk.node? (location ++ [temporaryName number])).isSome = true := fun number before =>
      taken_of_freeNumber_taken (by rw [found]; rfl) (Nat.zero_le number) (by omega)
    let tried := (List.range (disk.nodes.length + 1)).map fun number =>
      location ++ [temporaryName number]
    have distinct : tried.Nodup := by
      refine List.Pairwise.map _ ?_ List.nodup_range
      intro first second different same
      have last := List.append_cancel_left same
      exact different (temporaryName_injective (List.cons.inj last).1)
    have inside : tried ⊆ disk.nodes.map Prod.fst := by
      intro place member
      obtain ⟨number, small, rfl⟩ := List.mem_map.mp member
      exact mem_nodes_of_node? (by simp) (allTaken number (List.mem_range.mp small))
    have fewer := distinct.length_le_of_subset inside
    simp only [tried, List.length_map, List.length_range] at fewer
    omega

/-- A temporary file is made where a path leads to a directory, under a name that was free, if its
path is short enough and the device takes it. -/
theorem makeTemporary_eq_ok {made : Location × Disk}
    (success : disk.makeTemporary directory = .ok made) :
    disk.fitsTemporary directory = true ∧ ∃ location number, disk.Leads directory location ∧
      (disk.fault location).making = none ∧
      disk.node? (location ++ [temporaryName number]) = none ∧
      made = (location ++ [temporaryName number],
        disk.put (location ++ [temporaryName number]) (.file .empty)) := by
  unfold makeTemporary at success
  dsimp only at success
  split at success
  case isTrue => cases success
  case isFalse fits =>
    refine ⟨by simpa using fits, ?_⟩
    split at success
    case isTrue empty =>
      change (if (!disk.isDirectory disk.working) = true then _ else _) = _ at success
      split at success
      case isTrue => cases success
      case isFalse isDirectory =>
        obtain ⟨_, taken, success⟩ := bind_eq_ok.mp success
        exact ⟨disk.working, _, ⟨by simpa using isDirectory, .inl ⟨empty, rfl⟩⟩,
          failWith_eq_ok.mp taken, node?_freeNumber disk disk.working,
          (Except.ok.inj success).symm⟩
    case isFalse some =>
      obtain ⟨location, located, success⟩ := bind_eq_ok.mp success
      split at success
      case isTrue => cases success
      case isFalse isDirectory =>
        obtain ⟨_, taken, success⟩ := bind_eq_ok.mp success
        exact ⟨location, _, ⟨by simpa using isDirectory, .inr ⟨some, located⟩⟩,
          failWith_eq_ok.mp taken, node?_freeNumber disk location,
          (Except.ok.inj success).symm⟩

/-- Whether a temporary file with some bytes can be had in a directory: its path is short enough,
and the device does not fail at making or filling it. -/
structure TakesTemporary (disk : Disk) (directory : Path) (size : Nat) : Prop where
  fits : disk.fitsTemporary directory = true
  making : (disk.fault (disk.destination directory)).making = none
  filling : ((disk.fault (disk.destination directory)).filled size).2 = none

/-- Whether a directory takes a file with some bytes: the device does not fail at giving it its name
either. -/
structure TakesFile (disk : Disk) (directory : Path) (size : Nat) : Prop
    extends TakesTemporary disk directory size where
  moving : (disk.fault (disk.destination directory)).moving = none

/-- What a directory takes is decided by the faults and the working directory. -/
theorem TakesFile.of_same {before after : Disk} {size : Nat}
    (takes : before.TakesFile directory size) (working : after.working = before.working)
    (faults : after.faults = before.faults) : after.TakesFile directory size := by
  have fault := fault_of_faults faults
  have place := destination_of_working working directory
  refine ⟨⟨?_, ?_, ?_⟩, ?_⟩
  · unfold fitsTemporary workingPath
    rw [working]
    exact takes.fits
  · rw [fault, place, takes.making]
  · rw [fault, place, takes.filling]
  · rw [fault, place, takes.moving]

/-- Where the device fails at nothing, a directory takes all files. -/
theorem takesFile_of_sound (sound : disk.fault (disk.destination directory) = {})
    (fits : disk.fitsTemporary directory = true) (size : Nat) :
    disk.TakesFile directory size := by
  refine ⟨⟨fits, ?_, ?_⟩, ?_⟩
  all_goals rw [sound]
  rfl

/-- A temporary file can be made in a directory that is there and takes it. -/
theorem Leads.exists_makeTemporary (leads : disk.Leads directory location)
    (fits : disk.fitsTemporary directory = true) (taken : (disk.fault location).making = none) :
    ∃ made, disk.makeTemporary directory = .ok made := by
  unfold makeTemporary
  rw [if_neg (by simp [fits])]
  rcases leads.located with ⟨empty, rfl⟩ | ⟨some, located⟩
  · rw [if_pos empty]
    change ∃ made, (if (!disk.isDirectory disk.working) = true then _ else _) = _
    rw [if_neg (by simp [leads.isDirectory]), taken]
    exact ⟨_, rfl⟩
  · rw [if_neg some, located]
    change ∃ made, (if (!disk.isDirectory location) = true then _ else _) = _
    rw [if_neg (by simp [leads.isDirectory]), taken]
    exact ⟨_, rfl⟩

/-- The disk with a temporary file that was made and then filled. -/
def withTemporary (disk : Disk) (temporary : Location) (content : ByteArray) : Disk :=
  (disk.put temporary (.file .empty)).put temporary (.file content)

/-- Filling a temporary file that was made gives it a part of the content, which is all of it unless
the device fails. -/
theorem exists_writeTemporary (disk : Disk) (temporary : Location) (content : ByteArray) :
    let cause := ((disk.fault temporary.dropLast).filled content.size).2
    ∃ part, (disk.put temporary (.file .empty)).writeTemporary temporary content =
        (failWith cause, disk.withTemporary temporary part) ∧ (cause = none → part = content) := by
  let filled := (disk.fault temporary.dropLast).filled content.size
  refine ⟨content.extract 0 filled.1, rfl, fun whole => ?_⟩
  rw [Fault.fst_filled whole, ByteArray.extract_zero_size]

/-- A temporary file is seen at its location only. -/
theorem node?_withTemporary (disk : Disk) (content : ByteArray) (below : temporary ≠ [])
    (other : Location) :
    (disk.withTemporary temporary content).node? other =
      if other = temporary then some (.file content) else disk.node? other := by
  unfold withTemporary
  rw [node?_put _ below, node?_put _ below]
  split <;> rfl

/-- A temporary file in a free place keeps all directories. -/
theorem keepsDirectories_withTemporary (content : ByteArray) (below : temporary ≠ [])
    (free : disk.node? temporary = none) :
    KeepsDirectories disk (disk.withTemporary temporary content) := by
  refine ⟨rfl, fun other isDirectory => ?_⟩
  rw [isDirectory_iff] at isDirectory ⊢
  rw [node?_withTemporary _ _ below, if_neg, isDirectory]
  rintro rfl
  rw [free] at isDirectory
  cases isDirectory

/-- A temporary file adds no directory. -/
theorem isDirectory_of_withTemporary {other : Location} (below : temporary ≠ [])
    (isDirectory : (disk.withTemporary temporary content).isDirectory other = true) :
    disk.isDirectory other = true := by
  rw [isDirectory_iff, node?_withTemporary _ _ below] at isDirectory
  split at isDirectory
  · cases isDirectory
  · exact isDirectory_iff.mpr isDirectory

/-- Removing the temporary file leaves what was there before it. -/
theorem node?_erase_withTemporary (content : ByteArray) (below : temporary ≠ [])
    (free : disk.node? temporary = none) (other : Location) :
    ((disk.withTemporary temporary content).erase temporary).node? other = disk.node? other := by
  rw [node?_erase _ below, node?_withTemporary _ _ below]
  split
  case isTrue same => rw [same, free]
  case isFalse => rfl

/-- Whether disks hold the same nodes, and are the same otherwise. -/
structure Alike (before after : Disk) : Prop where
  working : after.working = before.working
  faults : after.faults = before.faults
  node?_eq : ∀ location, after.node? location = before.node? location

/-- Whether a disk is another one but for a file, which takes the place of no directory. -/
structure Holds (before : Disk) (target : Location) (content : ByteArray) (after : Disk) :
    Prop where
  working : after.working = before.working
  faults : after.faults = before.faults
  noDirectory : before.isDirectory target = false
  node?_eq : ∀ location, after.node? location =
    if location = target then some (.file content) else before.node? location

variable {number : Nat} {after : Disk}

/-- A disk that holds a new file keeps its directories. -/
theorem Holds.keepsDirectories {target : Location} (holds : disk.Holds target content after) :
    KeepsDirectories disk after := by
  refine ⟨holds.working, fun other isDirectory => ?_⟩
  rw [isDirectory_iff, holds.node?_eq, if_neg, isDirectory_iff.mp isDirectory]
  rintro rfl
  rw [holds.noDirectory] at isDirectory
  cases isDirectory

/-- Moving a temporary file to a name in its directory: what may be wrong with the target, and what
the disk is otherwise. -/
theorem Leads.moveTemporary_eq (leads : disk.Leads directory location)
    (single : Path.IsSingle name)
    (free : disk.node? (location ++ [temporaryName number]) = none) :
    let temporary := location ++ [temporaryName number]
    let full := disk.withTemporary temporary content
    full.moveTemporary temporary (directory.child name) =
      if (directory.child name).text.toList.contains '\x00' then .error .invalidArgument
      else checkPath (directory.child name) >>= fun () =>
        if name.utf8ByteSize > nameLimit then .error .nameTooLong
        else if full.isDirectory (location ++ [name]) then .error .isDirectory
        else failWith (disk.fault location).moving >>= fun () =>
          .ok ((full.erase temporary).put (location ++ [name]) (.file content)) := by
  intro temporary full
  have below : temporary ≠ [] := by simp [temporary]
  have leadsFull := leads.keeps (keepsDirectories_withTemporary content below free)
  have found : full.node? temporary = some (.file content) := by
    rw [node?_withTemporary _ _ below, if_pos rfl]
  have beside : (location ++ [name]).isPrefixOf temporary.dropLast = false := by
    rw [List.dropLast_concat, Bool.eq_false_iff]
    intro inside
    have longer := (List.isPrefixOf_iff_prefix.mp inside).length_le
    simp only [List.length_append, List.length_singleton] at longer
    omega
  unfold moveTemporary
  rw [leadsFull.locateEnd_child single]
  by_cases null : (directory.child name).text.toList.contains '\x00' = true
  · rw [if_pos null, if_pos null]
    rfl
  · rw [if_neg null, if_neg null]
    cases checkPath (directory.child name) with
    | error cause => rfl
    | ok =>
      simp only [ok_bind]
      rw [found, beside]
      split
      case isTrue => rfl
      case isFalse =>
        simp only [Bool.false_eq_true, if_false]
        split <;> rfl

/-- A temporary file that was moved is the file at its target, the path of which is one that can
be followed. -/
theorem Leads.holds_of_moveTemporary (leads : disk.Leads directory location)
    (single : Path.IsSingle name)
    (free : disk.node? (location ++ [temporaryName number]) = none)
    (moved : (disk.withTemporary (location ++ [temporaryName number]) content).moveTemporary
      (location ++ [temporaryName number]) (directory.child name) = .ok after) :
    disk.Holds (location ++ [name]) content after ∧
      checkPath (directory.child name) = .ok () ∧ name.utf8ByteSize ≤ nameLimit ∧
      (disk.fault location).moving = none := by
  have below : location ++ [temporaryName number] ≠ [] := by simp
  have erased := node?_erase_withTemporary content below free
  rw [leads.moveTemporary_eq single free] at moved
  split at moved
  case isTrue => cases moved
  case isFalse =>
    obtain ⟨_, checked, moved⟩ := bind_eq_ok.mp moved
    split at moved
    case isTrue => cases moved
    case isFalse short =>
      split at moved
      case isTrue => cases moved
      case isFalse noDirectory =>
        obtain ⟨_, taken, moved⟩ := bind_eq_ok.mp moved
        cases moved
        refine ⟨⟨rfl, rfl, ?_, fun other => ?_⟩, checked, by omega, failWith_eq_ok.mp taken⟩
        · rw [Bool.eq_false_iff]
          intro isDirectory
          have keeps := keepsDirectories_withTemporary content below free
          exact noDirectory (keeps.directories _ isDirectory)
        · rw [node?_put _ (by simp), erased]

/-- A temporary file is moved to a name that may be one, unless a directory has it or the device
fails. -/
theorem Leads.exists_moveTemporary (content : ByteArray)
    (leads : disk.Leads directory location) (single : Path.IsSingle name)
    (free : disk.node? (location ++ [temporaryName number]) = none)
    (checked : checkPath (directory.child name) = .ok ()) (short : name.utf8ByteSize ≤ nameLimit)
    (noDirectory : disk.isDirectory (location ++ [name]) = false)
    (sound : (disk.fault location).moving = none) :
    ∃ after, (disk.withTemporary (location ++ [temporaryName number]) content).moveTemporary
      (location ++ [temporaryName number]) (directory.child name) = .ok after := by
  have below : location ++ [temporaryName number] ≠ [] := by simp
  have noNull : (directory.child name).text.toList.contains '\x00' = false := by
    simpa using (checkPath_eq_ok.mp checked).1
  have noDirectoryFull : (disk.withTemporary (location ++ [temporaryName number])
      content).isDirectory (location ++ [name]) = false := by
    rw [Bool.eq_false_iff] at noDirectory ⊢
    exact fun isDirectory => noDirectory (isDirectory_of_withTemporary below isDirectory)
  rw [leads.moveTemporary_eq single free, noNull, checked, noDirectoryFull, sound]
  simp only [Bool.false_eq_true, if_false, failWith, ok_bind]
  rw [if_neg (by omega)]
  exact ⟨_, rfl⟩

/-- A disk is like itself. -/
theorem Alike.refl (disk : Disk) : Alike disk disk :=
  ⟨rfl, rfl, fun _ => rfl⟩

/-- Removing a temporary file, whatever it was filled with, leaves the disk as it was. -/
theorem alike_erase_withTemporary (content : ByteArray) (below : temporary ≠ [])
    (free : disk.node? temporary = none) :
    disk.Alike ((disk.withTemporary temporary content).erase temporary) :=
  ⟨rfl, rfl, node?_erase_withTemporary content below free⟩

/-- Whether a disk is what an attempt to write a file leaves: directories were made at some places,
and then the file was written or nothing more was done. -/
def Writes (places : Location → Prop) (target : Location) (before after : Disk) : Prop :=
  ∃ prepared, before.Grows places prepared ∧
    (prepared.Alike after ∨ ∃ content, prepared.Holds target content after)

/-- Nothing has to be written. -/
theorem Writes.refl (places : Location → Prop) (target : Location) (disk : Disk) :
    disk.Writes places target disk :=
  ⟨disk, .refl places disk, .inl (.refl disk)⟩

/-- An attempt to write keeps all directories. -/
theorem Writes.keepsDirectories {places : Location → Prop} {target : Location}
    (writes : disk.Writes places target after) : KeepsDirectories disk after := by
  obtain ⟨prepared, grows, alike | ⟨content, holds⟩⟩ := writes
  · refine ⟨alike.working.trans grows.working, fun other isDirectory => ?_⟩
    rw [isDirectory_iff, alike.node?_eq, ← isDirectory_iff]
    exact grows.keepsDirectories.directories other isDirectory
  · refine ⟨holds.working.trans grows.working, fun other isDirectory => ?_⟩
    exact holds.keepsDirectories.directories other
      (grows.keepsDirectories.directories other isDirectory)

/-- Away from the target, all that is new are directories at the places. -/
theorem Writes.nodes {places : Location → Prop} {target : Location}
    (writes : disk.Writes places target after) {other : Location} (beside : other ≠ target) :
    after.node? other = disk.node? other ∨
      places other ∧ disk.node? other = none ∧ after.node? other = some .directory := by
  obtain ⟨prepared, grows, alike | ⟨content, holds⟩⟩ := writes
  · rw [alike.node?_eq]
    exact grows.nodes other
  · rw [holds.node?_eq, if_neg beside]
    exact grows.nodes other

/-- The content of a file other than the target is still found. -/
theorem Writes.contentAt {places : Location → Prop} {target : Location} {path : Path}
    (writes : disk.Writes places target after) (found : disk.contentAt path = .ok content)
    (beside : disk.destination path ≠ target) : after.contentAt path = .ok content := by
  refine contentAt_keeps writes.keepsDirectories found ?_
  have node := node?_of_contentAt found
  rcases writes.nodes beside with same | ⟨_, absent, _⟩
  · rw [same, node]
  · rw [node] at absent
    cases absent

end Disk
end Files

namespace Program

open Files

variable {ε : Type} (outside : Outside ε) {directory : Path} {name : String}
  (content : ByteArray) {world : World ε} {location : Location}

@[simp] theorem run_makeTemporary (directory : Path) (world : World ε) :
    (makeTemporary directory).run outside world =
      world.change (world.disk.makeTemporary directory) := rfl

@[simp] theorem run_writeTemporary (temporary : Location) (world : World ε) :
    (writeTemporary temporary content).run outside world =
      ((world.disk.writeTemporary temporary content).1,
        { world with disk := (world.disk.writeTemporary temporary content).2 }) := rfl

@[simp] theorem run_moveTemporary (temporary : Location) (target : Path) (world : World ε) :
    (moveTemporary temporary target).run outside world =
      world.change ((world.disk.moveTemporary temporary target).map fun disk => ((), disk)) := rfl

/-- Finishing a temporary file works on the disk only. -/
theorem confined_finishTemporary (temporary : Location) (target : Path) (content : ByteArray) :
    (finishTemporary temporary target content).Confined Effect.OnDisk := by
  have write : (writeTemporary temporary content).Confined Effect.OnDisk :=
    ⟨trivial, fun _ => trivial⟩
  refine write.bind fun written => ?_
  split
  case h_1 => exact ⟨trivial, fun _ => trivial⟩
  case h_2 => exact confined_pure _

/-- Writing a file works on the disk only. -/
theorem confined_writeFile (directory : Path) (name : String) (content : ByteArray) :
    (writeFile directory name content).Confined Effect.OnDisk := by
  unfold writeFile
  refine ((confined_ensureDirectory directory).mono fun _ => Effect.OnDirectories.onDisk).bind
    fun ensured => ?_
  split
  case h_1 => exact confined_pure _
  case h_2 =>
    have make : (makeTemporary directory).Confined Effect.OnDisk := ⟨trivial, fun _ => trivial⟩
    refine make.bind fun made => ?_
    split
    case h_1 => exact confined_pure _
    case h_2 temporary =>
      refine (confined_finishTemporary temporary _ content).bind fun moved => ?_
      split
      case h_1 => exact confined_pure _
      case h_2 => exact ⟨trivial, fun _ => trivial⟩

/-- Filling a temporary file and moving it is both or neither. -/
theorem run_finishTemporary (temporary : Location) (target : Path) (world : World ε) :
    let filled := world.disk.writeTemporary temporary content
    (finishTemporary temporary target content).run outside world =
      match filled.1 >>= fun () => filled.2.moveTemporary temporary target with
      | .ok disk => (.ok (), { world with disk := disk })
      | .error cause => (.error cause, { world with disk := filled.2 }) := by
  unfold finishTemporary
  rw [run_bind, run_writeTemporary]
  obtain ⟨result, left⟩ := world.disk.writeTemporary temporary content
  intro filled
  cases result with
  | error cause => rfl
  | ok =>
    dsimp only
    rw [run_moveTemporary, ok_bind]
    cases left.moveTemporary temporary target <;> rfl

/-- Once its directory is made sure of, a file is written by making a temporary file, filling it and
moving it. The temporary file is removed when something fails after it was made. -/
theorem run_writeFile_eq {prepared : World ε}
    (ensured : (ensureDirectory directory).run outside world = (.ok (), prepared)) :
    (writeFile directory name content).run outside world =
      match prepared.disk.makeTemporary directory with
      | .error cause => (.error (.file cause), prepared)
      | .ok (temporary, made) =>
        let filled := made.writeTemporary temporary content
        match filled.1 >>= fun () => filled.2.moveTemporary temporary (directory.child name) with
        | .ok disk => (.ok (directory.child name), { prepared with disk := disk })
        | .error cause =>
          (.error (.file cause), { prepared with disk := filled.2.erase temporary }) := by
  unfold writeFile
  rw [run_bind, ensured]
  dsimp only
  rw [run_bind, run_makeTemporary]
  cases prepared.disk.makeTemporary directory with
  | error cause => rfl
  | ok answer =>
    obtain ⟨temporary, made⟩ := answer
    dsimp only [World.change]
    rw [run_bind, run_finishTemporary]
    dsimp only
    cases (made.writeTemporary temporary content).1 >>= fun () =>
      (made.writeTemporary temporary content).2.moveTemporary temporary (directory.child name)
    all_goals rfl

/-- Once its directory is made sure of, a file is written, or the disk is as it was: whatever fails,
and however much of the content was written before. -/
theorem run_writeFile_cases {prepared : World ε}
    (ensured : (ensureDirectory directory).run outside world = (.ok (), prepared)) :
    (∃ disk cause, (writeFile directory name content).run outside world =
        (.error (.file cause), { prepared with disk := disk }) ∧ prepared.disk.Alike disk) ∨
      ∃ disk location number, (writeFile directory name content).run outside world =
          (.ok (directory.child name), { prepared with disk := disk }) ∧
        prepared.disk.Leads directory location ∧
        prepared.disk.TakesTemporary directory content.size ∧
        prepared.disk.node? (location ++ [Disk.temporaryName number]) = none ∧
        (prepared.disk.withTemporary (location ++ [Disk.temporaryName number])
          content).moveTemporary (location ++ [Disk.temporaryName number])
            (directory.child name) = .ok disk := by
  rw [run_writeFile_eq outside content ensured]
  cases made : prepared.disk.makeTemporary directory with
  | error cause => exact .inl ⟨_, cause, rfl, .refl _⟩
  | ok answer =>
    obtain ⟨fits, location, number, leads, taken, free, rfl⟩ := Disk.makeTemporary_eq_ok made
    have below : location ++ [Disk.temporaryName number] ≠ [] := by simp
    obtain ⟨part, filled, whole⟩ := Disk.exists_writeTemporary prepared.disk
      (location ++ [Disk.temporaryName number]) content
    rw [List.dropLast_concat] at filled whole
    dsimp only
    rw [filled]
    cases failing : ((prepared.disk.fault location).filled content.size).2 with
    | some cause => exact .inl ⟨_, cause, rfl, Disk.alike_erase_withTemporary part below free⟩
    | none =>
      have takes : prepared.disk.TakesTemporary directory content.size := by
        rw [leads.eq_destination] at taken failing
        exact ⟨fits, taken, failing⟩
      rw [whole failing, failWith_none, ok_bind]
      cases moved : (prepared.disk.withTemporary (location ++ [Disk.temporaryName number])
          content).moveTemporary (location ++ [Disk.temporaryName number])
            (directory.child name) with
      | error cause =>
        exact .inl ⟨_, cause, rfl, Disk.alike_erase_withTemporary content below free⟩
      | ok disk => exact .inr ⟨disk, location, number, rfl, leads, takes, free, moved⟩

/-- Writing a file into a directory that is there leaves the file, or the disk as it was. -/
theorem run_writeFile_of_leads (leads : world.disk.Leads directory location)
    (single : Path.IsSingle name) :
    (∃ disk, (writeFile directory name content).run outside world =
        (.ok (directory.child name), { world with disk := disk }) ∧
      world.disk.Holds (location ++ [name]) content disk ∧
      Disk.checkPath (directory.child name) = .ok () ∧
      world.disk.TakesFile directory content.size) ∨
    (∃ disk cause, (writeFile directory name content).run outside world =
        (.error (.file cause), { world with disk := disk }) ∧ world.disk.Alike disk) := by
  rcases run_writeFile_cases outside content (run_ensureDirectory_of_leads outside world leads) with
    failed | ⟨disk, other, number, written, leadsOther, takes, free, moved⟩
  · exact .inr failed
  · obtain rfl := leadsOther.eq_destination.trans leads.eq_destination.symm
    obtain ⟨holds, checked, -, moving⟩ := leads.holds_of_moveTemporary single free moved
    rw [leads.eq_destination] at moving
    exact .inl ⟨disk, written, holds, checked, ⟨takes, moving⟩⟩

/-- Writing a file into a directory that is there and takes it leaves the file, unless its path
cannot be one or a directory has its name. -/
theorem run_writeFile_ok (leads : world.disk.Leads directory location)
    (takes : world.disk.TakesFile directory content.size) (single : Path.IsSingle name)
    (checked : Disk.checkPath (directory.child name) = .ok ())
    (short : name.utf8ByteSize ≤ Disk.nameLimit)
    (noDirectory : world.disk.isDirectory (location ++ [name]) = false) :
    ((writeFile directory name content).run outside world).1 = .ok (directory.child name) := by
  rw [run_writeFile_eq outside content (run_ensureDirectory_of_leads outside world leads)]
  have place := leads.eq_destination
  obtain ⟨made, success⟩ := leads.exists_makeTemporary takes.fits (place ▸ takes.making)
  obtain ⟨-, other, number, leadsOther, -, free, rfl⟩ := Disk.makeTemporary_eq_ok success
  obtain rfl := leadsOther.eq_destination.trans place.symm
  obtain ⟨after, moved⟩ := leads.exists_moveTemporary content single free checked short noDirectory
    (place ▸ takes.moving)
  obtain ⟨part, filled, whole⟩ := Disk.exists_writeTemporary world.disk
    (other ++ [Disk.temporaryName number]) content
  rw [List.dropLast_concat, place, takes.filling] at filled whole
  rw [success]
  dsimp only
  rw [place, filled, whole rfl, failWith_none, ok_bind, ← place, moved]

/-- Writing goes on from where the directory was made. -/
theorem run_writeFile_of_ensured
    (ensured : ((ensureDirectory directory).run outside world).1 = .ok ())
    (leads : ((ensureDirectory directory).run outside world).2.disk.Leads directory location) :
    (writeFile directory name content).run outside world =
      (writeFile directory name content).run outside
        ((ensureDirectory directory).run outside world).2 := by
  unfold writeFile
  rw [run_bind, run_bind, run_ensureDirectory_of_leads outside _ leads, ensured]

/-- Writing a file makes directories on the way. Then it fails and leaves nothing more, or the
directory is there and a temporary file of it is moved to its place. -/
theorem writeFile_moves (directory : Path) (name : String) (world : World ε) :
    let result := (writeFile directory name content).run outside world
    ∃ prepared, world.disk.Grows (world.disk.Waypoint directory) prepared ∧
      ((∃ failure, result.1 = .error failure) ∧ prepared.Alike result.2.disk ∨
        result.1 = .ok (directory.child name) ∧ ∃ location number,
          prepared.Leads directory location ∧
          prepared.node? (location ++ [Disk.temporaryName number]) = none ∧
          (prepared.withTemporary (location ++ [Disk.temporaryName number]) content).moveTemporary
            (location ++ [Disk.temporaryName number]) (directory.child name) =
              .ok result.2.disk) := by
  intro result
  refine ⟨_, ensureDirectory_grows outside directory world, ?_⟩
  unfold result
  generalize ensured : (ensureDirectory directory).run outside world = first
  obtain ⟨answer, prepared⟩ := first
  cases answer with
  | error failure =>
    refine .inl ?_
    unfold writeFile
    rw [run_bind, ensured]
    exact ⟨⟨failure, rfl⟩, .refl _⟩
  | ok =>
    rcases run_writeFile_cases outside content ensured with
      ⟨disk, cause, run, alike⟩ | ⟨disk, location, number, run, leads, -, free, moved⟩
    · rw [run]
      exact .inl ⟨⟨.file cause, rfl⟩, alike⟩
    · rw [run]
      exact .inr ⟨rfl, location, number, leads, free, moved⟩

/-- Writing a file under a single name fails and leaves no more than directories made on the way,
or the directory takes the file. -/
theorem writeFile_cases (directory : Path) (single : Path.IsSingle name) (world : World ε) :
    let result := (writeFile directory name content).run outside world
    ∃ prepared, world.disk.Grows (world.disk.Waypoint directory) prepared ∧
      ((∃ failure, result.1 = .error failure) ∧ prepared.Alike result.2.disk ∨
        result.1 = .ok (directory.child name) ∧ ∃ location, prepared.Leads directory location ∧
          prepared.Holds (location ++ [name]) content result.2.disk ∧
          Disk.checkPath (directory.child name) = .ok () ∧
          name.utf8ByteSize ≤ Disk.nameLimit) := by
  intro result
  obtain ⟨prepared, grows, failed | ⟨written, location, number, leads, free, moved⟩⟩ :=
    writeFile_moves outside content directory name world
  · exact ⟨prepared, grows, .inl failed⟩
  · obtain ⟨holds, checked, short, -⟩ := leads.holds_of_moveTemporary single free moved
    exact ⟨prepared, grows, .inr ⟨written, location, leads, holds, checked, short⟩⟩

/-- Whether writing a file succeeds or not, the disk is what such an attempt leaves: directories
made on the way, and perhaps the file. -/
theorem writeFile_writes (directory : Path) (single : Path.IsSingle name) (world : World ε) :
    world.disk.Writes (world.disk.Waypoint directory)
      (world.disk.destination directory ++ [name])
      ((writeFile directory name content).run outside world).2.disk := by
  obtain ⟨prepared, grows, ⟨_, alike⟩ | ⟨_, location, leads, holds, _⟩⟩ :=
    writeFile_cases outside content directory single world
  · exact ⟨prepared, grows, .inl alike⟩
  · rw [leads.eq_destination, Disk.destination_of_working grows.working] at holds
    exact ⟨prepared, grows, .inr ⟨content, holds⟩⟩

end Program
end QuizFeed
