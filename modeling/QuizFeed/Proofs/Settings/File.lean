import QuizFeed.Proofs.Files.Following
import QuizFeed.Proofs.Files.Writing
import QuizFeed.Settings.File

/-!
# What reading and writing settings leaves

Reading settings changes nothing on the disk (`disk_load`). Writing them writes nothing but the
settings file, whose directory also holds the directory of cached feeds (`save_writes`,
`destination_cacheDirectory`). A settings file that is there lies in a directory
(`leads_directoryOf`), so writing settings replaces it or does nothing (`save_cases`).
-/

namespace QuizFeed.Settings

open Files

variable {disk : Disk} {path : Path} {name : String} {content : ByteArray}

/-- The directory of a settings file is its parent, or the current directory. -/
theorem directoryOf_cases {parent : Path} (above : path.parent? = some parent) :
    directoryOf path = parent ∨ parent.text = "" ∧ directoryOf path = ⟨"."⟩ := by
  unfold directoryOf
  rw [above, Option.filter_some]
  by_cases empty : parent.text = ""
  · right
    simp [empty]
  · left
    simp [empty]

/-- The empty path leads to the working directory. -/
theorem destination_of_empty {path : Path} (empty : path.text = "") :
    disk.destination path = disk.working := by
  obtain ⟨text⟩ := path
  cases empty
  rfl

/-- The names of a settings file are those of its directory, and its last name behind them. -/
theorem names_directoryOf (last : path.fileName? = some name) :
    path.names = (directoryOf path).names ++ [name.toList] ∧
      (directoryOf path).isAbsolute = path.isAbsolute := by
  obtain ⟨parent, above⟩ := Path.exists_parent?_of_fileName? last
  obtain ⟨names, start⟩ := Path.names_of_fileName? above last
  rcases directoryOf_cases above with same | ⟨empty, dot⟩
  · rw [same]
    exact ⟨names, start⟩
  · obtain ⟨text⟩ := parent
    cases empty
    rw [dot]
    exact ⟨names, start⟩

/-- A settings file lies in its directory. -/
theorem destination_directoryOf (disk : Disk) (last : path.fileName? = some name) :
    disk.destination path = disk.destination (directoryOf path) ++ [name] := by
  have single := Path.isSingle_of_fileName? last
  obtain ⟨names, start⟩ := names_directoryOf last
  have sameStart : disk.start path = disk.start ((directoryOf path).child name) :=
    disk.start_eq_of_isAbsolute (start.symm.trans (Path.isAbsolute_child _ single).symm)
  rw [← disk.destination_child _ single]
  unfold Disk.destination
  rw [names, Path.names_child _ single, sameStart]

/-- The directory of a settings file that is there is there. -/
theorem leads_directoryOf (found : disk.contentAt path = .ok content)
    (last : path.fileName? = some name) :
    disk.Leads (directoryOf path) (disk.destination (directoryOf path)) := by
  obtain ⟨parent, above⟩ := Path.exists_parent?_of_fileName? last
  obtain ⟨location, located, _⟩ := Disk.contentAt_eq_ok.mp found
  have leads := Disk.leads_of_parent? located above last
  rcases directoryOf_cases above with same | ⟨empty, dot⟩
  · rw [same]
    exact leads
  · rw [dot]
    apply Disk.leads_of_waypoints
    · intro _
      decide
    · intro piece member
      cases member
    · rintro other ⟨front, inside, rfl⟩
      obtain rfl := List.prefix_nil.mp inside
      have isDirectory := leads.isDirectory
      rw [destination_of_empty empty] at isDirectory
      exact isDirectory

variable {ε : Type} (outside : Outside ε)

/-- Reading settings asks for the settings file only. -/
theorem confined_load (path : Path) :
    (load path).Confined fun effect =>
      effect = .readFile path ∨ ∃ record, effect = .log record := by
  have file : (Program.readText path).Confined fun effect =>
      effect = .readFile path ∨ ∃ record, effect = .log record := by
    have content : (Program.readFile path).Confined fun effect =>
        effect = .readFile path ∨ ∃ record, effect = .log record :=
      ⟨.inl rfl, fun _ => trivial⟩
    refine content.bind fun answer => ?_
    split
    · split <;> exact Program.confined_pure _
    · exact Program.confined_pure _
  refine file.bind fun answer => ?_
  split
  · exact ⟨.inr ⟨_, rfl⟩, fun _ => Program.confined_pure _⟩
  · exact Program.confined_pure _
  · split <;> exact Program.confined_pure _

/-- Loading settings asks neither clock nor network. -/
theorem events_load (path : Path) (world : World ε) :
    (load path).events outside world = [] := by
  have quiet : (load path).Confined Effect.IsQuiet := by
    apply (confined_load path).mono
    rintro effect (rfl | ⟨record, rfl⟩) <;> trivial
  exact quiet.events_quiet world

/-- Saving settings asks neither clock nor network. -/
theorem events_save (path : Path) (settings : Settings) (world : World ε) :
    (save path settings).events outside world = [] := by
  have quiet : (save path settings).Confined Effect.IsQuiet := by
    unfold save
    split
    · exact Program.confined_pure _
    · refine ((Program.confined_writeFile _ _ _).mono fun _ => Effect.OnDisk.isQuiet).bind
        fun answer => ?_
      split
      · exact Program.confined_pure _
      · exact (Program.quiet_report _ _ _).bind fun _ => Program.confined_pure _
  exact quiet.events_quiet world

/-- Reading settings changes nothing on the disk. -/
theorem disk_load (path : Path) (world : World ε) :
    ((load path).run outside world).2.disk = world.disk := by
  apply (confined_load path).invariant (fun after => after.disk = world.disk) _ rfl
  rintro effect (rfl | ⟨record, rfl⟩) after same <;> exact same

/-- The directory of cached feeds lies beside the settings file. -/
theorem destination_cacheDirectory (disk : Disk) (path : Path) :
    disk.destination (cacheDirectory path) =
      disk.destination (directoryOf path) ++ ["riddle_cache"] :=
  Disk.destination_child disk _ (by decide)

/-- Writing settings writes nothing but a file beside the directory of cached feeds. -/
theorem save_writes (path : Path) (settings : Settings) (world : World ε) :
    ∃ name, world.disk.Writes (world.disk.Waypoint (directoryOf path))
      (world.disk.destination (directoryOf path) ++ [name])
      ((save path settings).run outside world).2.disk := by
  unfold save
  split
  case h_1 => exact ⟨"", .refl _ _ _⟩
  case h_2 name last =>
    rw [Program.run_bind]
    have writes := Program.writeFile_writes outside settings.document.toUTF8 (directoryOf path)
      (Path.isSingle_of_fileName? last) world
    split
    case h_1 =>
      simp only [Program.run_pure]
      exact ⟨name, writes⟩
    case h_2 =>
      simp only [Program.run_bind, Program.run_report, Program.run_pure]
      exact ⟨name, writes⟩

/-- Saving over a settings file that is there replaces it, or leaves the disk as it was. -/
theorem save_cases {world : World ε} (found : world.disk.contentAt path = .ok content)
    (last : path.fileName? = some name) (settings : Settings) :
    let result := (save path settings).run outside world
    (∃ written, result.1 = .ok written ∧ world.disk.Holds (world.disk.destination path)
        settings.document.toUTF8 result.2.disk) ∨
      ∃ failure, result.1 = .error failure ∧ world.disk.Alike result.2.disk := by
  intro result
  unfold result save
  rw [last]
  dsimp only
  rw [Program.run_bind, destination_directoryOf world.disk last]
  rcases Program.run_writeFile_of_leads outside settings.document.toUTF8
    (leads_directoryOf found last) (Path.isSingle_of_fileName? last) with
    ⟨disk, run, holds, _⟩ | ⟨disk, cause, run, alike⟩
  · rw [run]
    exact .inl ⟨_, rfl, holds⟩
  · rw [run]
    exact .inr ⟨_, rfl, alike⟩

end QuizFeed.Settings
