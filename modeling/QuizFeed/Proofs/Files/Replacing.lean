import QuizFeed.Proofs.Files.Ensuring
import QuizFeed.Proofs.Files.Writing

/-!
# Writing under any name

A file may be written under any text as its name, also one that is empty, absolute or has slashes.
Where a temporary file can be moved to such a path, the path then leads to its content
(`Disk.holds_of_moveTemporary`), so writing a file leaves either the file under its path or
nothing but directories on the way (`Program.writeFile_all_or_nothing`).
-/

namespace QuizFeed

namespace Files.Disk

variable {disk after : Disk} {path target : Path} {location temporary : Location} {name : String}
  {content : ByteArray}

/-- The end of a path has a slash behind it if the last piece is empty. -/
theorem slashed_of_locateEnd {place : End} (found : disk.locateEnd path = .ok place) :
    place.slashed = ((Path.pieces path.text.toList).reverse.head? == some []) := by
  unfold locateEnd at found
  dsimp only at found
  split at found
  case h_1 =>
    cases found
    rfl
  case h_2 last above _ =>
    obtain ⟨directory, _, found⟩ := bind_eq_ok.mp found
    split at found
    · cases found
    · split at found <;> (cases found; rfl)

/-- A path with no slashes at its end has its last name as its last piece. -/
theorem locateEnd_eq_unslashed
    (found : disk.locateEnd path = .ok ⟨location, .name name, false⟩) :
    disk.isDirectory location = true ∧ Path.isBlankPiece name.toList = false ∧
      name.toList ≠ ['.', '.'] ∧ ∃ above, Path.pieces path.text.toList = above ++ [name.toList] ∧
        above.foldlM disk.follow (disk.start path) = .ok location := by
  obtain ⟨isDirectory, notBlank, notParent, above, trailing, split, empty, followed⟩ :=
    locateEnd_eq_name found
  have noSlash := slashed_of_locateEnd found
  rcases List.eq_nil_or_concat trailing with rfl | ⟨front, last, rfl⟩
  · exact ⟨isDirectory, notBlank, notParent, above, split, followed⟩
  · rw [empty last (by simp)] at split
    rw [split] at noSlash
    simp at noSlash

/-- What it takes to move a temporary file to a path. -/
theorem moveTemporary_eq_ok (moved : disk.moveTemporary temporary target = .ok after) :
    ∃ location name node, disk.locateEnd target = .ok ⟨location, .name name, false⟩ ∧
      checkPath target = .ok () ∧ name.utf8ByteSize ≤ nameLimit ∧
      disk.isDirectory (location ++ [name]) = false ∧ disk.node? temporary = some node ∧
      after = (disk.erase temporary).put (location ++ [name]) node := by
  unfold moveTemporary at moved
  by_cases null : target.text.toList.contains '\x00' = true
  · rw [if_pos null] at moved
    cases moved
  · rw [if_neg null] at moved
    obtain ⟨_, checked, moved⟩ := bind_eq_ok.mp moved
    obtain ⟨⟨location, last, slashed⟩, found, moved⟩ := bind_eq_ok.mp moved
    cases last with
    | root | dots => cases moved
    | name name =>
      dsimp only at moved
      split at moved
      case isTrue => cases moved
      case isFalse short =>
        cases slashed with
        | true => cases moved
        | false =>
          rw [if_neg Bool.false_ne_true] at moved
          split at moved
          case isTrue => cases moved
          case isFalse =>
            split at moved
            case isTrue => cases moved
            case isFalse noDirectory =>
              obtain ⟨_, _, moved⟩ := bind_eq_ok.mp moved
              split at moved
              case h_2 => cases moved
              case h_1 node there =>
                cases moved
                exact ⟨location, name, node, found, checked, by omega, by simpa using noDirectory,
                  there, rfl⟩

/-- A temporary file that was moved is all that is new, and its path leads to its content. -/
theorem holds_of_moveTemporary (below : temporary ≠ []) (free : disk.node? temporary = none)
    (moved : (disk.withTemporary temporary content).moveTemporary temporary target = .ok after) :
    disk.Holds (disk.destination target) content after ∧ after.contentAt target = .ok content := by
  obtain ⟨location, name, node, found, checked, short, noDirectory, there, rfl⟩ :=
    moveTemporary_eq_ok moved
  rw [node?_withTemporary _ _ below, if_pos rfl] at there
  cases there
  have keeps := keepsDirectories_withTemporary content below free
  have place : disk.destination target = location ++ [name] :=
    (destination_of_working keeps.working target).symm.trans (destination_of_locateEnd found)
  have node := node?_put_last ((disk.withTemporary temporary content).erase temporary) location name
    (.file content)
  have holds : disk.Holds (location ++ [name]) content
      (((disk.withTemporary temporary content).erase temporary).put (location ++ [name])
        (.file content)) := by
    refine ⟨rfl, rfl, Bool.eq_false_iff.mpr fun isDirectory => ?_, fun other => ?_⟩
    · rw [keeps.directories _ isDirectory] at noDirectory
      cases noDirectory
    · rw [node, node?_erase_withTemporary content below free]
  have keepsFull : KeepsDirectories (disk.withTemporary temporary content) _ :=
    ⟨holds.working, fun other isDirectory =>
      holds.keepsDirectories.directories other (isDirectory_of_withTemporary below isDirectory)⟩
  obtain ⟨isDirectory, notBlank, notParent, above, split, followed⟩ := locateEnd_eq_unslashed found
  have stays := keepsFull.directories location isDirectory
  have followed := foldlM_follow_keeps keepsFull followed (isSome_of_isDirectory stays)
  have there := (node (location ++ [name])).trans (if_pos rfl)
  have last := follow_there stays notBlank notParent short (by rw [there]; rfl)
  rw [place]
  refine ⟨holds, contentAt_eq_ok.mpr ⟨location ++ [name], ?_, there⟩⟩
  unfold locate
  rw [checked, ok_bind, split, List.foldlM_append]
  exact bind_eq_ok.mpr ⟨location, followed, bind_eq_ok.mpr ⟨_, last, rfl⟩⟩

/-- Whether a location holds what it held, or a directory that was made on the way of a path. -/
def KeptOrMade (before after : Disk) (path : Path) (location : Location) : Prop :=
  after.node? location = before.node? location ∨
    before.Waypoint path location ∧ before.node? location = none ∧
      after.node? location = some .directory

end Files.Disk

namespace Program

open Files

variable {ε : Type} (outside : Outside ε) (content : ByteArray)

/-- Writing a file under any name fails and leaves no more than directories made on the way, or it
leaves the file, and its path leads to its content. -/
theorem writeFile_holds (directory : Path) (name : String) (world : World ε) :
    let result := (writeFile directory name content).run outside world
    ∃ prepared, world.disk.Grows (world.disk.Waypoint directory) prepared ∧
      ((∃ failure, result.1 = .error failure) ∧ prepared.Alike result.2.disk ∨
        result.1 = .ok (directory.child name) ∧
          prepared.Holds (world.disk.destination (directory.child name)) content result.2.disk ∧
          result.2.disk.contentAt (directory.child name) = .ok content) := by
  intro result
  obtain ⟨prepared, grows, failed | ⟨written, location, number, leads, free, moved⟩⟩ :=
    writeFile_moves outside content directory name world
  · exact ⟨prepared, grows, .inl failed⟩
  · obtain ⟨holds, found⟩ := Disk.holds_of_moveTemporary (by simp) free moved
    rw [Disk.destination_of_working grows.working] at holds
    exact ⟨prepared, grows, .inr ⟨written, holds, found⟩⟩

/-- Making sure of a directory fails for that directory. -/
theorem exists_of_ensureDirectory {directory : Path} {world : World ε} {failure : WriteFailure}
    (failed : ((ensureDirectory directory).run outside world).1 = .error failure) :
    ∃ cause, failure = .directory cause := by
  unfold ensureDirectory at failed
  rw [run_bind, run_inspect] at failed
  split at failed
  case h_1 => cases failed
  case h_2 =>
    cases failed
    exact ⟨_, rfl⟩
  case h_3 =>
    rw [run_bind] at failed
    split at failed
    case h_1 => cases failed
    case h_2 =>
      cases failed
      exact ⟨_, rfl⟩

/-- Without its directory, writing a file fails, and asks for nothing more. -/
theorem run_writeFile_of_failed {directory : Path} {world : World ε} {failure : WriteFailure}
    (failed : ((ensureDirectory directory).run outside world).1 = .error failure) (name : String) :
    ((writeFile directory name content).run outside world).1 = .error failure ∧
      (writeFile directory name content).effects outside world =
        (ensureDirectory directory).effects outside world := by
  unfold writeFile
  rw [run_bind, effects_bind, failed]
  exact ⟨rfl, List.append_nil _⟩

/-- With its directory, writing a file does not fail for that directory. -/
theorem run_writeFile_ne_directory {directory : Path} {world : World ε}
    (ensured : ((ensureDirectory directory).run outside world).1 = .ok ()) (name : String)
    (cause : Cause) :
    ((writeFile directory name content).run outside world).1 ≠ .error (.directory cause) := by
  rcases run_writeFile_cases outside content (Prod.ext ensured rfl) with
    ⟨_, _, run, -⟩ | ⟨_, _, _, run, -⟩
  all_goals
    rw [run]
    exact nofun

/-- Writing a file fails for its directory if that has a name, but cannot be made one. -/
theorem run_writeFile_eq_directory_iff (directory : Path) (name : String) {world : World ε}
    (tree : world.disk.IsTree) :
    (∃ cause, ((writeFile directory name content).run outside world).1 =
        .error (.directory cause)) ↔
      directory.text ≠ "" ∧ ¬ world.disk.Makeable directory := by
  have ensured := ensureDirectory_ok_iff outside directory tree
  rw [← not_or, ← ensured]
  cases answer : ((ensureDirectory directory).run outside world).1 with
  | ok =>
    refine iff_of_false ?_ (fun fails => fails rfl)
    rintro ⟨cause, failed⟩
    exact run_writeFile_ne_directory outside content answer name cause failed
  | error failure =>
    obtain ⟨cause, rfl⟩ := exists_of_ensureDirectory outside answer
    exact iff_of_true ⟨cause, (run_writeFile_of_failed outside content answer name).1⟩ nofun

/-- Writing a file is all or nothing, whatever fails on the way: its path leads to its content and
nothing else has changed, or nothing has changed at all, but for directories that were made on the
way of its directory. It fails for the directory if that cannot be made, and then it has tried
nothing else. -/
theorem writeFile_all_or_nothing (directory : Path) (name : String) (world : World ε) :
    let result := (writeFile directory name content).run outside world
    (∀ path, result.1 = .ok path →
      path = directory.child name ∧ result.2.disk.contentAt path = .ok content ∧
      ∀ location, location ≠ world.disk.destination path →
        world.disk.KeptOrMade result.2.disk directory location) ∧
    (∀ failure, result.1 = .error failure →
      ∀ location, world.disk.KeptOrMade result.2.disk directory location) ∧
    (world.disk.IsTree → ((∃ cause, result.1 = .error (.directory cause)) ↔
      directory.text ≠ "" ∧ ¬ world.disk.Makeable directory)) ∧
    (∀ cause, result.1 = .error (.directory cause) →
      ∀ effect ∈ (writeFile directory name content).effects outside world,
        effect.OnDirectories) := by
  intro result
  obtain ⟨prepared, grows, outcome⟩ := writeFile_holds outside content directory name world
  refine ⟨fun path written => ?_, fun failure failed location => ?_,
    fun tree => run_writeFile_eq_directory_iff outside content directory name tree,
    fun cause failed effect asked => ?_⟩
  · rcases outcome with ⟨⟨failure, failed⟩, -⟩ | ⟨done, holds, found⟩
    · cases written.symm.trans failed
    · cases written.symm.trans done
      refine ⟨rfl, found, fun location beside => ?_⟩
      have same : result.2.disk.node? location = prepared.node? location := by
        rw [holds.node?_eq, if_neg beside]
      unfold Disk.KeptOrMade
      rw [same]
      exact grows.nodes location
  · rcases outcome with ⟨-, alike⟩ | ⟨done, -⟩
    · unfold Disk.KeptOrMade
      rw [alike.node?_eq]
      exact grows.nodes location
    · cases failed.symm.trans done
  · cases answer : ((ensureDirectory directory).run outside world).1 with
    | ok =>
      exact absurd failed (run_writeFile_ne_directory outside content answer name cause)
    | error failure =>
      rw [(run_writeFile_of_failed outside content answer name).2] at asked
      exact (confined_ensureDirectory directory).mem_effects asked

/-- A file that is replaced, a directory that a file is in the way of, and a file that stays because
its device has no room for the whole content. -/
theorem writeFile_all_or_nothing_blocked :
    let outside : Outside Unit := ⟨fun state => (.epoch, state), fun _ state => (.ok .empty, state)⟩
    let noSpace : Cause := .other "No space left on device (os error 28)"
    let worldWith := fun faults : List (Location × Fault) =>
      (⟨⟨[(["b"], .file "old".toUTF8)], [], faults⟩, [], [], [], ()⟩ : World Unit)
    let world := worldWith []
    let full := worldWith [([], { growing := some (1, noSpace) })]
    let replaced := (writeFile ⟨""⟩ "b" "new".toUTF8).run outside world
    let blocked := (writeFile ⟨"b/c"⟩ "f" "new".toUTF8).run outside world
    let refused := (writeFile ⟨""⟩ "b" "new".toUTF8).run outside full
    replaced.1 = .ok ⟨"b"⟩ ∧ replaced.2.disk.contentAt ⟨"b"⟩ = .ok "new".toUTF8 ∧
      world.disk.IsTree ∧ blocked.1 = .error (.directory .notDirectory) ∧
      ¬ world.disk.Makeable ⟨"b/c"⟩ ∧
      world.disk.KeptOrMade blocked.2.disk ⟨"b/c"⟩ ["b"] ∧
      refused.1 = .error (.file noSpace) ∧
      full.disk.KeptOrMade refused.2.disk ⟨""⟩ ["b"] := by
  intro outside noSpace worldWith world full replaced blocked refused
  have written : replaced.1 = .ok ⟨"b"⟩ := eq_ok_of_toOption (by decide +kernel)
  have failed : blocked.1 = .error (.directory .notDirectory) :=
    eq_error_of_failureOf? (by decide +kernel)
  have partly : refused.1 = .error (.file noSpace) :=
    eq_error_of_failureOf? (by decide +kernel)
  have tree : world.disk.IsTree := by
    intro location name there
    have member : location ++ [name] = [] ++ ["b"] := by
      simpa [world, worldWith] using Disk.mem_nodes_of_node? (by simp) there
    obtain ⟨rfl, _⟩ := List.append_inj' member rfl
    rfl
  have first := writeFile_all_or_nothing outside "new".toUTF8 ⟨""⟩ "b" world
  have second := writeFile_all_or_nothing outside "new".toUTF8 ⟨"b/c"⟩ "f" world
  have third := writeFile_all_or_nothing outside "new".toUTF8 ⟨""⟩ "b" full
  exact ⟨written, (first.1 _ written).2.1, tree, failed, ((second.2.2.1 tree).mp ⟨_, failed⟩).2,
    second.2.1 _ failed ["b"], partly, third.2.1 _ partly ["b"]⟩

/-- A directory that is missing before a final `.` is not made, although making it would do. -/
theorem writeFile_before_dot :
    let outside : Outside Unit := ⟨fun state => (.epoch, state), fun _ state => (.ok .empty, state)⟩
    let world : World Unit := ⟨⟨[], [], []⟩, [], [], [], ()⟩
    ((writeFile ⟨"x/."⟩ "f" "abc".toUTF8).run outside world).1 = .error (.directory .notFound) ∧
      ∃ after, world.disk.makeDirectory ⟨"x"⟩ = .ok after ∧
        after.kindAt ⟨"x/."⟩ = .ok .directory := by
  intro outside world
  refine ⟨eq_error_of_failureOf? (by decide +kernel), ⟨[(["x"], .directory)], [], []⟩, rfl, ?_⟩
  exact eq_ok_of_toOption (by decide)

end Program
end QuizFeed
