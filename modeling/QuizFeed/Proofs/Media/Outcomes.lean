import QuizFeed.Proofs.Files.Parents
import QuizFeed.Proofs.Files.Replacing
import QuizFeed.Proofs.Media.Confinement

/-!
# How a call for a local copy ends

`Localizes` lists the five ways in which a local copy is asked for: what is downloaded, what the
answer is, and what becomes of the disk. `localize_localizes` says that every call is one of them.
The path that a new copy is answered with is spelled through the parent of its place, which may
drop blank pieces; a path that is not too long leads to the copy all the same
(`contentAt_of_stored`).
-/

namespace QuizFeed

open Files

namespace Files.Disk

variable {disk after : Disk} {path directory parent : Path} {location : Location} {name : String}

/-- A path that is not too long may be followed where another one with its names may. -/
theorem checkPath_of_names {other : Path} (checked : checkPath other = .ok ())
    (names : path.names = other.names) (some : path.text ≠ "")
    (fits : path.text.utf8ByteSize < pathLimit) : checkPath path = .ok () := by
  have noNull := (checkPath_eq_ok.mp checked).1
  rw [Path.mem_text_iff _ (by decide) (by decide), ← names,
    ← Path.mem_text_iff _ (by decide) (by decide)] at noNull
  exact checkPath_eq_ok.mpr ⟨noNull, some, fits⟩

/-- A kind is seen where a path can be followed to a node of that kind. -/
theorem kindAt_eq_ok {kind : Kind} : disk.kindAt path = .ok kind ↔
    ∃ location node, disk.locate path = .ok location ∧ disk.node? location = some node ∧
      node.kind = kind := by
  unfold kindAt
  rw [bind_eq_ok]
  refine exists_congr fun location => ?_
  cases disk.node? location with
  | none => simp [throw, throwThe, MonadExceptOf.throw]
  | some node => simp [pure, Except.pure]

/-- Where there is content there is a file. -/
theorem kindAt_of_contentAt {content : ByteArray} (found : disk.contentAt path = .ok content) :
    disk.kindAt path = .ok .file := by
  obtain ⟨location, located, there⟩ := contentAt_eq_ok.mp found
  exact kindAt_eq_ok.mpr ⟨location, _, located, there, rfl⟩

/-- A path that is too long leads to nothing. -/
theorem kindAt_of_long (disk : Disk) (long : pathLimit ≤ path.text.utf8ByteSize) :
    ∃ cause, disk.kindAt path = .error cause := by
  cases found : disk.kindAt path with
  | error cause => exact ⟨cause, rfl⟩
  | ok kind =>
    obtain ⟨location, node, located, -⟩ := kindAt_eq_ok.mp found
    have fits := (checkPath_eq_ok.mp (checkPath_of_locate located)).2.2
    omega

/-- A directory is reached where the parent of a name in it is. -/
theorem Leads.of_parent?_child (leads : disk.Leads parent location) (single : Path.IsSingle name)
    (above : (directory.child name).parent? = some parent)
    (checked : checkPath (directory.child name) = .ok ()) :
    disk.Leads directory (disk.destination directory) := by
  refine leads_of_waypoints (fun named => ?_) (fun piece member => leads.short ?_)
    fun other waypoint => ?_
  · exact checkPath_of_prefix (Path.text_prefix_child directory single) named checked
  · rwa [(Path.names_parent?_child directory single above).1]
  · exact leads.isDirectory_of_waypoint ((Media.waypoint_parent?_child single above).mpr waypoint)

/-- A path that is not too long leads to the file that was written to it through the parent of the
path. -/
theorem contentAt_of_stored {content : ByteArray} (leads : disk.Leads parent location)
    (single : Path.IsSingle name) (above : (directory.child name).parent? = some parent)
    (holds : disk.Holds (location ++ [name]) content after)
    (checked : checkPath (parent.child name) = .ok ()) (short : name.utf8ByteSize ≤ nameLimit)
    (fits : (directory.child name).text.utf8ByteSize < pathLimit) :
    after.contentAt (directory.child name) = .ok content := by
  have names : (directory.child name).names = (parent.child name).names := by
    rw [Path.names_child _ single, Path.names_child _ single,
      (Path.names_parent?_child directory single above).1]
  have checked := checkPath_of_names checked names (Path.text_child_ne_empty _ single) fits
  have reached := (leads.of_parent?_child single above checked).keeps holds.keepsDirectories
  have place : location = disk.destination directory := by
    rw [leads.eq_destination, destination_parent?_child disk single above]
  rw [reached.contentAt_child single checked short, holds.node?_eq, place, if_pos rfl]

end Files.Disk

namespace Media

/-- An entry with an image whose local copy has a place, where there is nothing on the disk. -/
structure Lacks (images : Path) (subject? : Option Entry) (disk : Disk) (entry : Entry)
    (image : String) (target : Path) : Prop where
  isEntry : subject? = some entry
  isImage : entry.image = some image
  isTarget : entry.localImage? images = some target
  missing : ∃ cause, disk.kindAt target = .error cause

/-- What a call for the local copy of the image of an entry does: the image directory, the entry
and the disk before, the events, the result, and the disk after. -/
inductive Localizes (images : Path) (subject? : Option Entry) (before : Disk) :
    List Event → Except ThumbnailFailure (Option Path) → Disk → Prop where
  | absent (noTarget : (subject?.bind fun entry => entry.localImage? images) = none) :
      Localizes images subject? before [] (.ok none) before
  | there {entry target kind} (isEntry : subject? = some entry)
      (isTarget : entry.localImage? images = some target)
      (found : before.kindAt target = .ok kind) :
      Localizes images subject? before [] (.ok (some target)) before
  | failed {entry image target failure} (lacks : Lacks images subject? before entry image target) :
      Localizes images subject? before [.request image (.error failure)] (.error (.fetch failure))
        before
  | unwritten {entry image target content failure prepared after}
      (lacks : Lacks images subject? before entry image target)
      (grows : before.Grows (before.Waypoint images) prepared) (alike : prepared.Alike after) :
      Localizes images subject? before [.request image (.ok content)] (.error (.write failure))
        after
  | stored {entry image target content written prepared after}
      (lacks : Lacks images subject? before entry image target)
      (grows : before.Grows (before.Waypoint images) prepared)
      (same : written.components = target.components)
      (holds : prepared.Holds (before.destination target) content after)
      (found : after.contentAt written = .ok content)
      (reached : target.text.utf8ByteSize < Disk.pathLimit → after.contentAt target = .ok content) :
      Localizes images subject? before [.request image (.ok content)] (.ok (some written)) after

namespace Localizes

variable {images path : Path} {subject? : Option Entry} {before after : Disk} {events : List Event}
  {result : Except ThumbnailFailure (Option Path)} {image : String} {content : ByteArray}

/-- A call downloads the image of its entry, or nothing. -/
theorem events_eq (localizes : Localizes images subject? before events result after) :
    events = [] ∨ ∃ entry image reply, subject? = some entry ∧ entry.image = some image ∧
      events = [.request image reply] := by
  cases localizes with
  | absent | there => exact .inl rfl
  | failed lacks | unwritten lacks | stored lacks =>
    exact .inr ⟨_, _, _, lacks.isEntry, lacks.isImage, rfl⟩

/-- A call without a path as its answer leaves every file as it was. -/
theorem keptOrMade (localizes : Localizes images subject? before events result after)
    (noPath : ∀ path, result ≠ .ok (some path)) (location : Location) :
    before.KeptOrMade after images location := by
  cases localizes with
  | absent | failed => exact .inl rfl
  | there | stored => exact absurd rfl (noPath _)
  | unwritten lacks grows alike =>
    unfold Disk.KeptOrMade
    rw [alike.node?_eq]
    exact grows.nodes location

/-- The path that a call is answered with ends in the uid of its entry and an extension. -/
theorem named (localizes : Localizes images subject? before events (.ok (some path)) after) :
    ∃ entry extension, subject? = some entry ∧ '.' ∉ extension.toList ∧
      path.components.getLast? = some (.name (entry.uid ++ "." ++ extension)) := by
  cases localizes with
  | there isEntry isTarget =>
    obtain ⟨extension, -, noDot, rfl, single⟩ := exists_of_localImage? isTarget
    exact ⟨_, extension, isEntry, noDot, Path.getLast?_components_child images single⟩
  | stored lacks grows same =>
    obtain ⟨extension, -, noDot, rfl, single⟩ := exists_of_localImage? lacks.isTarget
    refine ⟨_, extension, lacks.isEntry, noDot, ?_⟩
    rw [same]
    exact Path.getLast?_components_child images single

/-- A path with a download as its answer leads to what was downloaded, and so does the path of the
copy unless it is too long. -/
theorem contentAt
    (localizes : Localizes images subject? before [.request image (.ok content)] (.ok (some path))
      after) :
    after.contentAt path = .ok content ∧
      ∀ target, (subject?.bind fun entry => entry.localImage? images) = some target →
        path.components = target.components ∧
        (target.text.utf8ByteSize < Disk.pathLimit → after.contentAt target = .ok content) := by
  cases localizes with
  | stored lacks grows same holds found reached =>
    refine ⟨found, fun target isTarget => ?_⟩
    rw [lacks.isEntry, Option.bind_some, lacks.isTarget] at isTarget
    cases isTarget
    exact ⟨same, reached⟩

/-- Nothing is downloaded where something is at the place of the copy. -/
theorem events_of_there {target : Path} {kind : Kind}
    (localizes : Localizes images subject? before events result after)
    (isTarget : (subject?.bind fun entry => entry.localImage? images) = some target)
    (found : before.kindAt target = .ok kind) : events = [] := by
  cases localizes with
  | absent | there => rfl
  | failed lacks | unwritten lacks | stored lacks =>
    obtain ⟨cause, missing⟩ := lacks.missing
    rw [lacks.isEntry, Option.bind_some, lacks.isTarget] at isTarget
    cases isTarget
    cases found.symm.trans missing

/-- A copy whose path is too long to be followed is downloaded by every call. -/
theorem events_of_long {target : Path}
    (localizes : Localizes images subject? before events result after)
    (isTarget : (subject?.bind fun entry => entry.localImage? images) = some target)
    (long : Disk.pathLimit ≤ target.text.utf8ByteSize) :
    ∃ image reply, events = [.request image reply] := by
  cases localizes with
  | absent noTarget => cases isTarget.symm.trans noTarget
  | failed | unwritten | stored => exact ⟨_, _, rfl⟩
  | there isEntry found there =>
    rw [isEntry, Option.bind_some, found] at isTarget
    cases isTarget
    obtain ⟨cause, missing⟩ := before.kindAt_of_long long
    cases there.symm.trans missing

end Localizes

variable {ε : Type} (outside : Outside ε)

/-- A download ends in one of three ways: it fails, the file is not written, or it is. -/
theorem downloadThumbnail_localizes {images target : Path} {subject? : Option Entry} {entry : Entry}
    {image : String} {world : World ε}
    (lacks : Lacks images subject? world.disk entry image target) (code : String) :
    let program := downloadThumbnail code image target
    Localizes images subject? world.disk (program.events outside world)
      ((program.run outside world).1.map some) (program.run outside world).2.disk := by
  obtain ⟨extension, -, -, isChild, single⟩ := exists_of_localImage? lacks.isTarget
  generalize entry.uid ++ "." ++ extension = name at isChild single
  obtain ⟨last, parent, above⟩ := Path.fileName?_child images single
  rw [← isChild] at last above
  intro program
  unfold program downloadThumbnail
  rw [Program.run_bind, Program.events_bind, Program.run_fetch, Program.events_fetch]
  dsimp only
  cases (outside.fetch image world.outside).1 with
  | error failure => exact .failed lacks
  | ok content =>
    rw [above, last]
    dsimp only [Option.getD_some]
    generalize start : World.mk _ _ _ _ _ = begun
    have disk : begun.disk = world.disk := start ▸ rfl
    have quiet : (Program.writeFile parent name content).events outside begun = [] :=
      ((Program.confined_writeFile parent name content).mono
        fun _ => Effect.OnDisk.isQuiet).events_quiet begun
    obtain ⟨prepared, grows, outcome⟩ :=
      Program.writeFile_cases outside content parent single begun
    rw [disk] at grows
    have grows := grows.mono fun _ => (waypoint_parent?_child single (isChild ▸ above)).mp
    rw [Program.run_bind, Program.events_bind, quiet]
    rcases outcome with ⟨⟨failure, failed⟩, alike⟩ |
      ⟨written, location, leads, holds, checked, short⟩
    · rw [failed]
      exact .unwritten lacks grows alike
    · rw [written]
      have place : location ++ [name] = world.disk.destination target := by
        rw [leads.eq_destination, Disk.destination_of_working grows.working, isChild,
          Disk.destination_child _ _ single,
          Disk.destination_parent?_child _ single (isChild ▸ above)]
      refine .stored lacks grows ?_ (place ▸ holds) ?_ fun fits => ?_
      · rw [isChild]
        exact Path.components_parent?_child images single (isChild ▸ above)
      · have reached := leads.keeps holds.keepsDirectories
        exact (reached.contentAt_child single checked short).trans
          (by rw [holds.node?_eq, if_pos rfl])
      · rw [isChild] at fits above ⊢
        exact Disk.contentAt_of_stored leads single above holds checked short fits

/-- Every call for a local copy ends in one of the five ways. -/
theorem localize_localizes (feed : Feed) (code : String) (settings : MediaSettings)
    (world : World ε) :
    let program := localize feed code settings
    Localizes settings.images (feed.get? code) world.disk (program.events outside world)
      (program.run outside world).1 (program.run outside world).2.disk := by
  intro program
  unfold program localize
  generalize feed.get? code = subject?
  cases subject? with
  | none => exact .absent rfl
  | some entry =>
    dsimp only
    split
    case h_2 noCopy =>
      refine .absent (Option.eq_none_iff_forall_ne_some.mpr fun target isTarget => ?_)
      obtain ⟨image, isImage⟩ := exists_image_of_localImage? isTarget
      exact noCopy image target isImage isTarget
    case h_1 image target isImage isTarget =>
      rw [Program.run_bind, Program.events_bind, Program.run_inspect]
      cases inspected : world.disk.kindAt target with
      | ok kind => exact .there rfl isTarget inspected
      | error cause =>
        have localizes := downloadThumbnail_localizes outside
          ⟨rfl, isImage, isTarget, cause, inspected⟩ code
        have none : (Program.inspect target).events outside world = [] := rfl
        dsimp only at localizes ⊢
        rw [Program.run_bind, Program.events_bind, none, List.nil_append]
        cases answer : ((downloadThumbnail code image target).run outside world).1 with
        | ok | error =>
          rw [answer] at localizes
          simp only [Program.events_pure, List.append_nil]
          exact localizes

end Media
end QuizFeed
