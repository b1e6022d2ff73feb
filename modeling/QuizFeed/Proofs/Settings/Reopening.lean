import QuizFeed.Proofs.Cache.Files
import QuizFeed.Proofs.Settings.Document
import QuizFeed.Proofs.Settings.File

/-!
# What is saved is opened again

Settings are saved under a path that is put together from the directory and the last name of the
path that is given, and read from that path as it is given. Both lead to the same place. A slash or
a dot behind the last name asks for a directory there, so it is refused where the file is read
(`Disk.Leads.locate_path`), and a path that is too long as it is given is refused (`load_saved`).
-/

namespace QuizFeed

namespace Path

/-- Whether what stands behind the last slash of a path is its last name. -/
def endsInName (path : Path) : Bool :=
  (pieces path.text.toList).getLast? == path.fileName?.map String.toList

/-- A path with a last name is made up of what stands above it, the name, and pieces that mean
nothing. Where it ends in the name there are none of these. -/
theorem exists_pieces_of_fileName? {path : Path} {name : String} {front : List (List Char)}
    (last : path.fileName? = some name) (names : path.names = front ++ [name.toList]) :
    ∃ above trailing, pieces path.text.toList = above ++ name.toList :: trailing ∧
      above.filter (!isBlankPiece ·) = front ∧
      (path.endsInName = true ↔ trailing = []) := by
  obtain ⟨above, rest, split, kept, isLast⟩ := List.filter_eq_append_iff.mp names
  obtain ⟨between, trailing, rfl, blank, -, none⟩ := List.filter_eq_cons_iff.mp isLast
  refine ⟨above ++ between, trailing, by rw [split, List.append_assoc], ?_, ?_⟩
  · rw [List.filter_append, kept, List.filter_eq_nil_iff.mpr blank, List.append_nil]
  · unfold endsInName
    rw [split, last, beq_iff_eq, Option.map_some]
    constructor
    · intro ends
      rcases List.eq_nil_or_concat trailing with rfl | ⟨others, final, rfl⟩
      · rfl
      · have notBlank := (isSingle_of_fileName? last).notBlank
        have isFinal : final = name.toList := by
          simpa [List.getLast?_append, List.getLast?_cons] using ends
        have meaningless := List.filter_eq_nil_iff.mp none final (by simp)
        simp [isFinal, notBlank] at meaningless
    · rintro rfl
      simp

end Path

namespace Files.Disk

variable {disk : Disk} {path directory : Path} {location : Location} {name : String}
  {content : ByteArray}

/-- A path to a file in a directory leads to it if it ends in the name of the file. Anything behind
the name asks for a directory. -/
theorem Leads.locate_path (leads : disk.Leads directory location)
    (names : path.names = directory.names ++ [name.toList])
    (start : directory.isAbsolute = path.isAbsolute) (last : path.fileName? = some name)
    (short : name.utf8ByteSize ≤ nameLimit)
    (there : disk.node? (location ++ [name]) = some (.file content)) :
    disk.locate path = checkPath path >>= fun _ =>
      if path.endsInName then .ok (location ++ [name]) else .error .notDirectory := by
  obtain ⟨above, trailing, split, kept, ends⟩ := Path.exists_pieces_of_fileName? last names
  have single := Path.isSingle_of_fileName? last
  have sameStart := disk.start_eq_of_isAbsolute start
  have followed : above.foldlM disk.follow (disk.start path) = .ok location := by
    rw [foldlM_follow_of_directories, ← foldl_stepTo_filter, kept, leads.eq_destination,
      ← sameStart]
    · rfl
    · intro piece member notBlank
      refine leads.short ?_
      rw [← kept]
      exact List.mem_filter.mpr ⟨member, by simp [notBlank]⟩
    · intro front inside
      rw [kept] at inside
      exact leads.isDirectory_of_waypoint ⟨front, inside, by rw [sameStart]⟩
  have lastFollowed := follow_there leads.isDirectory single.notBlank single.notParent short
    (by rw [there]; rfl)
  have noDirectory : disk.isDirectory (location ++ [name]) = false := by
    rw [Bool.eq_false_iff, ne_eq, isDirectory_iff, there]
    exact nofun
  unfold locate
  refine bind_congr fun _ => ?_
  rw [split, List.foldlM_append, followed, ok_bind, List.foldlM_cons, lastFollowed, ok_bind]
  cases trailing with
  | nil =>
    rw [if_pos (ends.mpr rfl)]
    rfl
  | cons piece others =>
    have stuck : disk.follow (location ++ [name]) piece = .error .notDirectory := by
      unfold follow
      rw [if_pos (by simp [noDirectory])]
    rw [if_neg (by simp [ends]), List.foldlM_cons, stuck]
    rfl

end Files.Disk

namespace Settings

open Files

variable {ε : Type} (outside : Outside ε) {path : Path} {name : String} {settings : Settings}
  {world after : World ε}

/-- A settings file that is there, but cannot be read, is a failure. -/
theorem run_load_of_unreadable {cause : Cause} (lost : world.disk.contentAt path = .error cause)
    (there : cause ≠ .notFound) :
    (load path).run outside world = (.error (.unreadable path cause), world) := by
  unfold load Program.readText
  rw [Program.run_bind, Program.run_bind, Program.run_readFile, lost]
  dsimp only
  rw [Program.run_pure]
  cases cause with
  | notFound => exact absurd rfl there
  | _ => rfl

/-- What it takes to save settings: the path has a last name, under which its directory takes the
document. -/
theorem save_eq_ok {written : Path}
    (saved : (save path settings).run outside world = (.ok written, after)) :
    ∃ name location, path.fileName? = some name ∧ written = (directoryOf path).child name ∧
      after.disk.Leads (directoryOf path) location ∧
      after.disk.node? (location ++ [name]) = some (.file settings.document.toUTF8) ∧
      Disk.checkPath written = .ok () ∧ name.utf8ByteSize ≤ Disk.nameLimit := by
  unfold save at saved
  split at saved
  case h_1 => cases saved
  case h_2 name last =>
    rw [Program.run_bind] at saved
    obtain ⟨prepared, -, ⟨⟨failure, failed⟩, -⟩ | ⟨done, location, leads, holds, checked, short⟩⟩ :=
      Program.writeFile_cases outside settings.document.toUTF8 (directoryOf path)
        (Path.isSingle_of_fileName? last) world
    · rw [failed] at saved
      cases saved
    · rw [done] at saved
      cases saved
      refine ⟨name, location, last, rfl, leads.keeps holds.keepsDirectories, ?_, checked, short⟩
      exact (holds.node?_eq _).trans (if_pos rfl)

/-- A path under which settings are saved has nothing wrong with it but for its length. -/
theorem checkPath_of_saved (last : path.fileName? = some name)
    (checked : Disk.checkPath ((directoryOf path).child name) = .ok ()) :
    Disk.checkPath path =
      if path.text.utf8ByteSize ≥ Disk.pathLimit then .error .nameTooLong else .ok () := by
  have names := (names_directoryOf last).1
  rw [← Path.names_child _ (Path.isSingle_of_fileName? last)] at names
  have noNull : '\x00' ∉ path.text.toList := by
    have noNull := (Disk.checkPath_eq_ok.mp checked).1
    rw [Path.mem_text_iff _ (by decide) (by decide)] at noNull ⊢
    rwa [names]
  have notEmpty : path.text ≠ "" := by
    rintro empty
    have named := (names_directoryOf last).1
    unfold Path.names at named
    rw [empty] at named
    simp [Path.pieces, Path.isBlankPiece] at named
  unfold Disk.checkPath
  rw [if_neg (by simpa using noNull), if_neg notEmpty]

/-- Settings that were saved under a path are read from it, if it is short enough and ends in its
last name. Otherwise reading them fails, and never gives the defaults: the path leads to the place
where the settings are, but is too long or asks for a directory there. -/
theorem load_saved {written : Path}
    (saved : (save path settings).run outside world = (.ok written, after)) :
    after.disk.destination path = after.disk.destination written ∧
      after.disk.contentAt written = .ok settings.document.toUTF8 ∧
      (load path).run outside after =
        (if path.text.utf8ByteSize ≥ Disk.pathLimit then .error (.unreadable path .nameTooLong)
          else if path.endsInName then .ok settings
          else .error (.unreadable path .notDirectory), after) := by
  obtain ⟨name, location, last, isWritten, leads, there, checked, short⟩ := save_eq_ok outside saved
  obtain ⟨names, start⟩ := names_directoryOf last
  rw [isWritten] at checked
  have located := leads.locate_path names start last short there
  rw [checkPath_of_saved last checked] at located
  refine ⟨?_, contentAt_save outside saved, ?_⟩
  · rw [isWritten, destination_directoryOf _ last,
      Disk.destination_child _ _ (Path.isSingle_of_fileName? last)]
  by_cases long : path.text.utf8ByteSize ≥ Disk.pathLimit
  · rw [if_pos long] at located ⊢
    refine run_load_of_unreadable outside ?_ nofun
    unfold Disk.contentAt
    rw [located]
    rfl
  rw [if_neg long, ok_bind] at located
  rw [if_neg long]
  cases ends : path.endsInName with
  | true =>
    rw [if_pos ends] at located
    have held := Disk.contentAt_eq_ok.mpr ⟨_, located, there⟩
    have read := Selection.all.ofDocument_document settings
    rw [Selection.document_all, Selection.kept_all] at read
    exact run_load outside held read
  | false =>
    rw [if_neg (by simp [ends])] at located
    refine run_load_of_unreadable outside ?_ nofun
    unfold Disk.contentAt
    rw [located]
    rfl

/-- The path that is given and the path that is put together differ, and both are read. -/
theorem load_saved_detour :
    let settings : Settings := { feed := { token := some "\"ü" }, media := { images := ⟨"i/"⟩ } }
    let path : Path := ⟨"d/..//e/./s.ron"⟩
    let result := (save path settings).run Cache.idle ⟨⟨[], [], []⟩, [], [], [], ()⟩
    result.1 = .ok ⟨"d/..//e/s.ron"⟩ ∧
      (load path).run Cache.idle result.2 = (.ok settings, result.2) := by
  intro settings path result
  have saved : result.1 = .ok ⟨"d/..//e/s.ron"⟩ := eq_ok_of_toOption (by decide +kernel)
  obtain ⟨-, -, reopened⟩ := load_saved Cache.idle (Prod.ext saved rfl)
  have short : ¬ path.text.utf8ByteSize ≥ Disk.pathLimit := by decide
  have ends : path.endsInName = true := by decide
  rw [if_neg short, if_pos ends] at reopened
  exact ⟨saved, reopened⟩

/-- A slash behind the last name is left out where the settings are written, and refused where they
are read. -/
theorem load_saved_slashed :
    let settings : Settings := { feed := { token := some "t" } }
    let result := (save ⟨"s.ron/"⟩ settings).run Cache.idle ⟨⟨[], [], []⟩, [], [], [], ()⟩
    result.1 = .ok ⟨"./s.ron"⟩ ∧
      result.2.disk.contentAt ⟨"./s.ron"⟩ = .ok settings.document.toUTF8 ∧
      ((load ⟨"s.ron/"⟩).run Cache.idle result.2).1 =
        .error (.unreadable ⟨"s.ron/"⟩ .notDirectory) := by
  intro settings result
  have written : result.1 = .ok ⟨"./s.ron"⟩ := eq_ok_of_toOption (by decide)
  have held := contentAt_save Cache.idle (Prod.ext written rfl)
  exact ⟨written, held, eq_error_of_failureOf? (by decide)⟩

end Settings

end QuizFeed
