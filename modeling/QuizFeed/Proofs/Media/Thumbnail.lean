import QuizFeed.Media.Thumbnail
import QuizFeed.Proofs.Files.Writing

/-!
# What making a local copy of an image leaves

The local copy of an image is a file of its own in the image directory, named for the uid and the
extension of the image (`exists_of_localImage?`). Where something is there already, making the copy
does nothing (`run_localize_of_there`), and else it writes nothing but that file
(`localize_writes`).
-/

namespace QuizFeed

open Files

/-- An extension has no separators in it. -/
theorem notMem_of_extension? {path : Path} {extension : String}
    (found : path.extension? = some extension) :
    '/' ∉ extension.toList ∧ '.' ∉ extension.toList := by
  unfold Path.extension? at found
  obtain ⟨name, last, isExtension⟩ := Option.bind_eq_some_iff.mp found
  obtain ⟨after, isAfter, rfl⟩ := Option.map_eq_some_iff.mp isExtension
  rw [String.toList_ofList]
  unfold Path.extensionOf at isAfter
  dsimp only at isAfter
  split at isAfter
  case isFalse => cases isAfter
  case isTrue =>
    cases isAfter
    constructor
    · intro slash
      rw [List.mem_reverse] at slash
      have inside := (List.takeWhile_prefix _).subset slash
      exact (Path.isSingle_of_fileName? last).noSlash (List.mem_reverse.mp inside)
    · intro dot
      rw [List.mem_reverse] at dot
      have other := List.all_eq_true.mp List.all_takeWhile '.' dot
      exact absurd other (by decide)

/-- A plain name is a single one also with an extension. -/
theorem isSingle_extended {name extension : String} (plain : Path.isPlainName name = true)
    (noSlash : '/' ∉ extension.toList) : Path.IsSingle (name ++ "." ++ extension) := by
  unfold Path.isPlainName at plain
  simp only [Bool.and_eq_true, Bool.not_eq_true', List.any_eq_false] at plain
  obtain ⟨⟨allowed, notBlank⟩, _⟩ := plain
  have text : (name ++ "." ++ extension).toList = name.toList ++ '.' :: extension.toList := by
    simp [String.toList_append]
  obtain ⟨first, others, spelling⟩ : ∃ first others, name.toList = first :: others := by
    refine List.exists_cons_of_ne_nil fun empty => ?_
    rw [empty] at notBlank
    cases notBlank
  -- A single dot is blank, so a text of dots alone has at least three of them here.
  have long : others = [] → first ≠ '.' := by
    rintro rfl rfl
    rw [spelling] at notBlank
    cases notBlank
  refine ⟨?_, ?_, ?_⟩
  · rw [text, List.mem_append, List.mem_cons]
    rintro (inside | dot | behind)
    · exact absurd (allowed '/' inside) (by decide)
    · exact absurd dot (by decide)
    · exact noSlash behind
  · rw [text, spelling]
    unfold Path.isBlankPiece
    simp
  · rw [text, spelling]
    intro same
    obtain ⟨isDot, rest⟩ := List.cons.inj same
    cases others with
    | nil => exact long rfl isDot
    | cons second more => exact absurd (List.cons.inj rest).2 (by simp)

/-- An entry with a local copy has an image. -/
theorem exists_image_of_localImage? {entry : Entry} {directory target : Path}
    (found : entry.localImage? directory = some target) : ∃ image, entry.image = some image := by
  unfold Entry.localImage? at found
  split at found
  case isFalse => cases found
  case isTrue =>
    obtain ⟨image, isImage, -⟩ := Option.map_eq_some_iff.mp found
    exact ⟨image, isImage⟩

/-- The local copy of an image is named for the uid and an extension without separators, which is a
name of its own in the image directory. -/
theorem exists_of_localImage? {entry : Entry} {directory target : Path}
    (found : entry.localImage? directory = some target) :
    ∃ extension, '/' ∉ extension.toList ∧ '.' ∉ extension.toList ∧
      target = directory.child (entry.uid ++ "." ++ extension) ∧
      Path.IsSingle (entry.uid ++ "." ++ extension) := by
  unfold Entry.localImage? at found
  split at found
  case isFalse => cases found
  case isTrue plain =>
    obtain ⟨image, _, rfl⟩ := Option.map_eq_some_iff.mp found
    dsimp only
    generalize isExtension : ((Url.parse image).toOption.bind fun url =>
      (Path.mk url.path).extension?) = extension
    obtain ⟨noSlash, noDot⟩ : '/' ∉ (extension.getD "").toList ∧
        '.' ∉ (extension.getD "").toList := by
      cases extension with
      | none => exact ⟨List.not_mem_nil, List.not_mem_nil⟩
      | some extension =>
        obtain ⟨url, _, isExtension⟩ := Option.bind_eq_some_iff.mp isExtension
        exact notMem_of_extension? isExtension
    exact ⟨_, noSlash, noDot, rfl, isSingle_extended plain noSlash⟩

namespace Media

/-- Where the local copy of the image of the quiz with some code belongs, if it has an image. -/
def target? (feed : Feed) (code : String) (settings : MediaSettings) : Option Path :=
  (feed.get? code).bind fun entry => entry.localImage? settings.images

variable {ε : Type} (outside : Outside ε) {feed : Feed} {code : String} {settings : MediaSettings}
  {target : Path}

/-- The place of an image is a name of its own in the image directory. -/
theorem exists_of_target? (found : target? feed code settings = some target) :
    ∃ name, Path.IsSingle name ∧ target = settings.images.child name := by
  obtain ⟨entry, _, isTarget⟩ := Option.bind_eq_some_iff.mp found
  obtain ⟨extension, _, _, isChild, single⟩ := exists_of_localImage? isTarget
  exact ⟨_, single, isChild⟩

/-- Nothing is done for a quiz whose image has no place. -/
theorem run_localize_of_none (absent : target? feed code settings = none) (world : World ε) :
    (localize feed code settings).run outside world = (.ok none, world) := by
  unfold localize
  cases found : feed.get? code with
  | none => rfl
  | some entry =>
    have noCopy : entry.localImage? settings.images = none := by
      simpa [target?, found] using absent
    simp [noCopy]

/-- An image that has a place is downloaded, unless something is there. -/
theorem run_localize_of_some (found : target? feed code settings = some target)
    (world : World ε) :
    ∃ image, (localize feed code settings).run outside world =
      match world.disk.kindAt target with
      | .ok _ => (.ok (some target), world)
      | .error _ =>
        let result := (downloadThumbnail code image target).run outside world
        (result.1.map some, result.2) := by
  obtain ⟨entry, isEntry, isTarget⟩ := Option.bind_eq_some_iff.mp found
  obtain ⟨image, isImage⟩ := exists_image_of_localImage? isTarget
  refine ⟨image, ?_⟩
  unfold localize
  simp only [isEntry, isImage, isTarget]
  rw [Program.run_bind, Program.run_inspect]
  cases world.disk.kindAt target with
  | ok kind => rfl
  | error cause =>
    dsimp only
    rw [Program.run_bind]
    cases ((downloadThumbnail code image target).run outside world).1 <;> rfl

/-- Nothing is done where something is at the place of the image. -/
theorem run_localize_of_there (found : target? feed code settings = some target)
    {world : World ε} {kind : Kind} (there : world.disk.kindAt target = .ok kind) :
    (localize feed code settings).run outside world = (.ok (some target), world) := by
  obtain ⟨image, run⟩ := run_localize_of_some outside found world
  rw [run, there]

/-- Downloading an image to a name in a directory leaves the disk, or what writing the file into the
parent of its path leaves. -/
theorem disk_downloadThumbnail (code image : String) (directory : Path) {name : String}
    (single : Path.IsSingle name) (world : World ε) :
    ((downloadThumbnail code image (directory.child name)).run outside world).2.disk =
        world.disk ∨
      ∃ parent content start, (directory.child name).parent? = some parent ∧
        start.disk = world.disk ∧
        ((downloadThumbnail code image (directory.child name)).run outside world).2.disk =
          ((Program.writeFile parent name content).run outside start).2.disk := by
  obtain ⟨last, parent, above⟩ := Path.fileName?_child directory single
  unfold downloadThumbnail
  rw [Program.run_bind, Program.run_fetch]
  dsimp only
  split
  case h_1 => exact .inl rfl
  case h_2 content _ =>
    refine .inr ⟨parent, content, { world with
      outside := (outside.fetch image world.outside).2, urls := world.urls ++ [image] },
      above, rfl, ?_⟩
    rw [above, last]
    dsimp only [Option.getD_some]
    rw [Program.run_bind]
    split
    · simp only [Program.run_pure]
    · simp only [Program.run_bind, Program.run_report, Program.run_pure]

/-- The parent of a name in a directory is reached through the same locations as the directory. -/
theorem waypoint_parent?_child {disk : Disk} {directory parent : Path} {name : String}
    {location : Location} (single : Path.IsSingle name)
    (above : (directory.child name).parent? = some parent) :
    disk.Waypoint parent location ↔ disk.Waypoint directory location := by
  obtain ⟨names, start⟩ := Path.names_parent?_child directory single above
  unfold Disk.Waypoint
  rw [names, Disk.start_eq_of_isAbsolute start]

/-- Downloading an image to a name in a directory writes nothing but that file. -/
theorem downloadThumbnail_writes (code image : String) (directory : Path) {name : String}
    (single : Path.IsSingle name) (world : World ε) :
    world.disk.Writes (world.disk.Waypoint directory)
      (world.disk.destination directory ++ [name])
      ((downloadThumbnail code image (directory.child name)).run outside world).2.disk := by
  rcases disk_downloadThumbnail outside code image directory single world with
    same | ⟨parent, content, start, above, disk, same⟩
  · rw [same]
    exact .refl _ _ _
  · obtain ⟨prepared, grows, written⟩ :=
      Program.writeFile_writes outside content parent single start
    rw [disk] at grows written
    rw [same, ← Disk.destination_parent?_child world.disk single above]
    exact ⟨prepared, grows.mono fun _ => (waypoint_parent?_child single above).mp, written⟩

/-- Making a local copy of an image writes nothing but that file. -/
theorem localize_writes (found : target? feed code settings = some target) (world : World ε) :
    world.disk.Writes (world.disk.Waypoint settings.images) (world.disk.destination target)
      ((localize feed code settings).run outside world).2.disk := by
  obtain ⟨image, run⟩ := run_localize_of_some outside found world
  obtain ⟨name, single, rfl⟩ := exists_of_target? found
  rw [run, Disk.destination_child world.disk settings.images single]
  cases world.disk.kindAt (settings.images.child name) with
  | ok kind => exact .refl _ _ _
  | error cause => exact downloadThumbnail_writes outside code image settings.images single world

end Media
end QuizFeed
