import QuizFeed.Files.Disk
import QuizFeed.Proofs.Files.Pieces
import QuizFeed.Proofs.Results

/-!
# Where paths lead

`Disk.destination` is where a path leads if all it needs is there. Following a path gives that
location or fails (`Disk.locate_eq_destination`), and a path that was followed can still be followed
when directories have been added (`Disk.locate_keeps`). `Disk.Leads` says that a path leads to a
directory, through which `Disk.locate_child` and `Disk.locateEnd_child` find its names.
-/

namespace QuizFeed.Files

/-- Where a piece of a path leads. -/
def stepTo (location : Location) (piece : List Char) : Location :=
  if Path.isBlankPiece piece then location
  else if piece = ['.', '.'] then location.dropLast
  else location ++ [String.ofList piece]

/-- Blank pieces lead nowhere. -/
theorem foldl_stepTo_filter (pieces : List (List Char)) (start : Location) :
    (pieces.filter (!Path.isBlankPiece ·)).foldl stepTo start = pieces.foldl stepTo start := by
  induction pieces generalizing start with
  | nil => rfl
  | cons piece rest inductionHypothesis =>
    by_cases blank : Path.isBlankPiece piece
    · rw [List.filter_cons_of_neg (by simp [blank]), List.foldl_cons, stepTo, if_pos blank,
        inductionHypothesis]
    · rw [List.filter_cons_of_pos (by simp [blank]), List.foldl_cons, List.foldl_cons,
        inductionHypothesis]

namespace Disk

variable {disk before after : Disk} {path directory : Path} {location next : Location}
  {piece : List Char} {name : String}

/-- Where a path leads if all it needs is there. -/
def destination (disk : Disk) (path : Path) : Location :=
  path.names.foldl stepTo (disk.start path)

/-- Paths that are both absolute or both relative start at the same place. -/
theorem start_eq_of_isAbsolute {other : Path} (same : path.isAbsolute = other.isAbsolute) :
    disk.start path = disk.start other := by
  unfold start
  rw [same]

/-- Where a path leads depends on the working directory only. -/
theorem destination_of_working (same : after.working = before.working) (path : Path) :
    after.destination path = before.destination path := by
  unfold destination start
  rw [same]

/-- A name in a directory leads one step further. -/
theorem destination_child (disk : Disk) (directory : Path) (single : Path.IsSingle name) :
    disk.destination (directory.child name) = disk.destination directory ++ [name] := by
  unfold destination
  rw [Path.names_child directory single, List.foldl_append,
    start_eq_of_isAbsolute (Path.isAbsolute_child directory single)]
  simp only [List.foldl_cons, List.foldl_nil]
  rw [stepTo, if_neg (by simp [single.notBlank]), if_neg single.notParent, String.ofList_toList]

/-- The last name of a path leads one step further than its parent. -/
theorem destination_of_fileName? (disk : Disk) {parent : Path} (above : path.parent? = some parent)
    (last : path.fileName? = some name) :
    disk.destination path = disk.destination parent ++ [name] := by
  obtain ⟨names, start⟩ := Path.names_of_fileName? above last
  have single := Path.isSingle_of_fileName? last
  unfold destination
  rw [names, List.foldl_append, start_eq_of_isAbsolute start]
  simp only [List.foldl_cons, List.foldl_nil]
  rw [stepTo, if_neg (by simp [single.notBlank]), if_neg single.notParent, String.ofList_toList]

/-- The parent of a name in a directory leads where the directory does. -/
theorem destination_parent?_child (disk : Disk) {parent : Path} (single : Path.IsSingle name)
    (above : (directory.child name).parent? = some parent) :
    disk.destination parent = disk.destination directory := by
  have last := destination_of_fileName? disk above (Path.fileName?_child directory single).1
  rw [destination_child disk directory single] at last
  exact (List.append_cancel_right last).symm

/-- Whether every directory of a disk is one of another disk as well, and relative paths start at
the same place. -/
structure KeepsDirectories (before after : Disk) : Prop where
  working : after.working = before.working
  directories : ∀ location, before.isDirectory location = true → after.isDirectory location = true

/-- Where a directory is, there is a node. -/
theorem isSome_of_isDirectory (isDirectory : disk.isDirectory location = true) :
    (disk.node? location).isSome := by
  unfold Disk.isDirectory at isDirectory
  cases found : disk.node? location with
  | none => simp [found] at isDirectory
  | some => rfl

/-- What following one piece of a path takes: a directory to start from, and something under the
piece if it is a name. -/
theorem follow_eq_ok (followed : disk.follow location piece = .ok next) :
    next = stepTo location piece ∧ disk.isDirectory location = true ∧
      (Path.isBlankPiece piece = true ∨ piece = ['.', '.'] ∨
        (String.ofList piece).utf8ByteSize ≤ nameLimit ∧ (disk.node? next).isSome) := by
  unfold follow at followed
  unfold stepTo
  split at followed
  case isTrue => cases followed
  case isFalse isDirectory =>
    have isDirectory : disk.isDirectory location = true := by simpa using isDirectory
    split at followed
    case isTrue blank =>
      cases followed
      exact ⟨(if_pos blank).symm, isDirectory, .inl blank⟩
    case isFalse notBlank =>
      rw [if_neg notBlank]
      split at followed
      case isTrue parent =>
        cases followed
        exact ⟨(if_pos parent).symm, isDirectory, .inr (.inl parent)⟩
      case isFalse notParent =>
        rw [if_neg notParent]
        dsimp only at followed
        split at followed
        case isTrue => cases followed
        case isFalse short =>
          split at followed
          case isTrue there =>
            cases followed
            exact ⟨rfl, isDirectory, .inr (.inr ⟨by omega, there⟩)⟩
          case isFalse => cases followed

/-- A blank piece leads from a directory to itself. -/
theorem follow_blank (isDirectory : disk.isDirectory location = true)
    (blank : Path.isBlankPiece piece = true) : disk.follow location piece = .ok location := by
  unfold follow
  rw [if_neg (by simp [isDirectory]), if_pos blank]

/-- A name leads from a directory to what is there under it. -/
theorem follow_single (isDirectory : disk.isDirectory location = true)
    (single : Path.IsSingle name) (short : name.utf8ByteSize ≤ nameLimit) :
    disk.follow location name.toList =
      if (disk.node? (location ++ [name])).isSome then .ok (location ++ [name])
      else .error .notFound := by
  unfold follow
  rw [if_neg (by simp [isDirectory]), if_neg (by simp [single.notBlank]),
    if_neg single.notParent]
  dsimp only
  rw [String.ofList_toList, if_neg (by omega)]

/-- A name leads from a directory to what is there under it, if it leads to something of its own. -/
theorem follow_there (isDirectory : disk.isDirectory location = true)
    (notBlank : Path.isBlankPiece name.toList = false) (notParent : name.toList ≠ ['.', '.'])
    (short : name.utf8ByteSize ≤ nameLimit) (there : (disk.node? (location ++ [name])).isSome) :
    disk.follow location name.toList = .ok (location ++ [name]) := by
  unfold follow
  rw [if_neg (by simp [isDirectory]), if_neg (by simp [notBlank]), if_neg notParent]
  dsimp only
  rw [String.ofList_toList, if_neg (by omega), if_pos there]

/-- A piece can still be followed, if what it leads to is still there. -/
theorem follow_keeps (keeps : KeepsDirectories before after)
    (followed : before.follow location piece = .ok next) (there : (after.node? next).isSome) :
    after.follow location piece = .ok next := by
  obtain ⟨rfl, isDirectory, kind⟩ := follow_eq_ok followed
  have isDirectory := keeps.directories location isDirectory
  unfold stepTo at there ⊢
  by_cases blank : Path.isBlankPiece piece = true
  · rw [if_pos blank]
    exact follow_blank isDirectory blank
  by_cases parent : piece = ['.', '.']
  · rw [if_neg blank, if_pos parent]
    unfold follow
    rw [if_neg (by simp [isDirectory]), if_neg blank, if_pos parent]
  · rw [if_neg blank, if_neg parent] at there ⊢
    have short : (String.ofList piece).utf8ByteSize ≤ nameLimit := by
      rcases kind with isBlank | isParent | ⟨short, _⟩
      · exact absurd isBlank blank
      · exact absurd isParent parent
      · exact short
    unfold follow
    rw [if_neg (by simp [isDirectory]), if_neg blank, if_neg parent]
    dsimp only
    rw [if_neg (by omega), if_pos there]

variable {pieces : List (List Char)} {start : Location}

/-- Pieces that can be followed lead where they should. -/
theorem foldlM_follow_eq_ok (followed : pieces.foldlM disk.follow start = .ok next) :
    next = pieces.foldl stepTo start := by
  induction pieces generalizing start with
  | nil => exact (Except.ok.inj followed).symm
  | cons piece rest inductionHypothesis =>
    rw [List.foldlM_cons, bind_eq_ok] at followed
    obtain ⟨middle, first, others⟩ := followed
    rw [List.foldl_cons, ← (follow_eq_ok first).1]
    exact inductionHypothesis others

/-- Pieces can still be followed, if what they lead to is still there. -/
theorem foldlM_follow_keeps (keeps : KeepsDirectories before after)
    (followed : pieces.foldlM before.follow start = .ok next)
    (there : (after.node? next).isSome) : pieces.foldlM after.follow start = .ok next := by
  induction pieces generalizing start with
  | nil => exact followed
  | cons piece rest inductionHypothesis =>
    rw [List.foldlM_cons, bind_eq_ok] at followed
    obtain ⟨middle, first, others⟩ := followed
    have thereMiddle : (after.node? middle).isSome := by
      cases rest with
      | nil => exact Except.ok.inj others ▸ there
      | cons second _ =>
        rw [List.foldlM_cons, bind_eq_ok] at others
        obtain ⟨_, followed, _⟩ := others
        exact isSome_of_isDirectory (keeps.directories middle (follow_eq_ok followed).2.1)
    rw [List.foldlM_cons, follow_keeps keeps first thereMiddle, ok_bind]
    exact inductionHypothesis others

/-- What it takes for a path to be followed at all. -/
theorem checkPath_eq_ok : checkPath path = .ok () ↔
    '\x00' ∉ path.text.toList ∧ path.text ≠ "" ∧ path.text.utf8ByteSize < pathLimit := by
  unfold checkPath
  split
  case isTrue null => exact iff_of_false nofun fun passes => passes.1 (by simpa using null)
  case isFalse noNull =>
    split
    case isTrue empty => exact iff_of_false nofun fun passes => passes.2.1 empty
    case isFalse some =>
      split
      case isTrue long => exact iff_of_false nofun fun passes => absurd passes.2.2 (by omega)
      case isFalse fits => exact iff_of_true rfl ⟨by simpa using noNull, some, by omega⟩

/-- A path that is not empty is never missing before it is followed. -/
theorem checkPath_ne_notFound (some : path.text ≠ "") : checkPath path ≠ .error .notFound := by
  unfold checkPath
  rw [if_neg some]
  split
  · exact nofun
  · split <;> exact nofun

/-- A path that was followed is one that a system can take. -/
theorem checkPath_of_locate (located : disk.locate path = .ok location) :
    checkPath path = .ok () := by
  obtain ⟨_, checked, _⟩ := bind_eq_ok.mp located
  exact checked

/-- A path that can be followed leads to its destination. -/
theorem locate_eq_destination (located : disk.locate path = .ok location) :
    location = disk.destination path := by
  obtain ⟨_, _, followed⟩ := bind_eq_ok.mp located
  unfold destination Path.names
  rw [foldl_stepTo_filter]
  exact foldlM_follow_eq_ok followed

/-- A path can still be followed, if what it leads to is still there. -/
theorem locate_keeps (keeps : KeepsDirectories before after)
    (located : before.locate path = .ok location) (there : (after.node? location).isSome) :
    after.locate path = .ok location := by
  obtain ⟨_, checked, followed⟩ := bind_eq_ok.mp located
  have start : after.start path = before.start path := by
    unfold Disk.start
    rw [keeps.working]
  unfold locate
  rw [checked, ok_bind, start]
  exact foldlM_follow_keeps keeps followed there

/-- A directory is seen where a path can be followed to one. -/
theorem kindAt_eq_directory_iff :
    disk.kindAt path = .ok .directory ↔
      ∃ location, disk.locate path = .ok location ∧ disk.isDirectory location = true := by
  unfold kindAt isDirectory
  rw [bind_eq_ok]
  refine exists_congr fun location => and_congr_right fun _ => ?_
  cases disk.node? location with
  | none => simp [throw, throwThe, MonadExceptOf.throw]
  | some node => cases node <;> simp [Node.kind, pure, Except.pure]

/-- A path leads to a directory; an empty path leads to the working directory. -/
structure Leads (disk : Disk) (path : Path) (location : Location) : Prop where
  isDirectory : disk.isDirectory location = true
  located : path.text = "" ∧ location = disk.working ∨
    path.text ≠ "" ∧ disk.locate path = .ok location

/-- A path still leads to a directory as long as all directories are kept. -/
theorem Leads.keeps (leads : before.Leads path location) (keeps : KeepsDirectories before after) :
    after.Leads path location := by
  have isDirectory := keeps.directories location leads.isDirectory
  refine ⟨isDirectory, ?_⟩
  rcases leads.located with ⟨empty, working⟩ | ⟨some, located⟩
  · exact .inl ⟨empty, by rw [working, keeps.working]⟩
  · exact .inr ⟨some, locate_keeps keeps located (isSome_of_isDirectory isDirectory)⟩

/-- A path leads to its destination. -/
theorem Leads.eq_destination (leads : disk.Leads path location) :
    location = disk.destination path := by
  rcases leads.located with ⟨empty, working⟩ | ⟨_, located⟩
  · unfold destination Path.names Disk.start Path.isAbsolute
    rw [empty, working]
    rfl
  · exact locate_eq_destination located

/-- Following the pieces above a name in a directory leads to the directory. -/
theorem Leads.foldlM_above (leads : disk.Leads directory location) (single : Path.IsSingle name) :
    ∃ above, Path.pieces (directory.child name).text.toList = above ++ [name.toList] ∧
      above.foldlM disk.follow (disk.start (directory.child name)) = .ok location := by
  obtain ⟨above, split, whole⟩ := Path.exists_pieces_child directory single
  refine ⟨above, split, ?_⟩
  rw [start_eq_of_isAbsolute (Path.isAbsolute_child directory single)]
  rcases leads.located with ⟨empty, rfl⟩ | ⟨some, located⟩
  · rcases whole with ⟨_, rfl⟩ | ⟨some, _⟩
    · unfold Disk.start Path.isAbsolute
      rw [empty]
      rfl
    · exact absurd empty some
  · obtain ⟨_, _, followed⟩ := bind_eq_ok.mp located
    rcases whole with ⟨empty, _⟩ | ⟨_, same | slashed⟩
    · exact absurd empty some
    · rw [same] at followed
      exact followed
    · rw [slashed, List.foldlM_append, bind_eq_ok] at followed
      obtain ⟨middle, followed, last⟩ := followed
      rw [List.foldlM_cons, bind_eq_ok] at last
      obtain ⟨final, blank, last⟩ := last
      have same := (follow_eq_ok blank).1
      rw [stepTo, if_pos (by rfl)] at same
      rw [followed, ← same]
      exact last

/-- A name in a directory leads to what the directory has under it. -/
theorem Leads.locate_child (leads : disk.Leads directory location) (single : Path.IsSingle name)
    (checked : checkPath (directory.child name) = .ok ()) (short : name.utf8ByteSize ≤ nameLimit) :
    disk.locate (directory.child name) =
      if (disk.node? (location ++ [name])).isSome then .ok (location ++ [name])
      else .error .notFound := by
  obtain ⟨above, split, followed⟩ := leads.foldlM_above single
  unfold locate
  rw [checked, ok_bind, split, List.foldlM_append, followed, ok_bind, List.foldlM_cons,
    follow_single leads.isDirectory single short]
  split <;> rfl

/-- The end of a name in a directory is that name, with nothing behind it. -/
theorem Leads.locateEnd_child (leads : disk.Leads directory location)
    (single : Path.IsSingle name) :
    disk.locateEnd (directory.child name) = .ok ⟨location, .name name, false⟩ := by
  obtain ⟨above, split, followed⟩ := leads.foldlM_above single
  have notDots : ¬ (name.toList = ['.'] ∨ name.toList = ['.', '.']) := by
    rintro (dot | dots)
    · have notBlank := single.notBlank
      rw [dot] at notBlank
      cases notBlank
    · exact single.notParent dots
  unfold locateEnd
  dsimp only
  rw [split, List.reverse_append, List.reverse_singleton, List.singleton_append,
    List.dropWhile_cons_of_neg (by simpa using single.ne_nil)]
  dsimp only
  rw [List.reverse_reverse, followed, ok_bind, if_neg (by simp [leads.isDirectory]),
    if_neg notDots, String.ofList_toList]
  have noSlash : ((name.toList :: above.reverse).head? == some []) = false := by
    simpa using single.ne_nil
  rw [noSlash]
  rfl

/-- What it takes to follow a path to its last name: the names above lead to a directory. -/
theorem locateEnd_eq_name {slashed : Bool}
    (found : disk.locateEnd path = .ok ⟨location, .name name, slashed⟩) :
    disk.isDirectory location = true ∧ Path.isBlankPiece name.toList = false ∧
      name.toList ≠ ['.', '.'] ∧
      ∃ above trailing, Path.pieces path.text.toList = above ++ name.toList :: trailing ∧
        (∀ piece ∈ trailing, piece = []) ∧
        above.foldlM disk.follow (disk.start path) = .ok location := by
  unfold locateEnd at found
  dsimp only at found
  have split := List.takeWhile_append_dropWhile (p := (· == []))
    (l := (Path.pieces path.text.toList).reverse)
  have notEmpty := List.head?_dropWhile_not (· == []) (Path.pieces path.text.toList).reverse
  have empty := List.all_takeWhile (p := (· == [])) (l := (Path.pieces path.text.toList).reverse)
  generalize (Path.pieces path.text.toList).reverse.dropWhile (· == []) = rest
    at found split notEmpty
  cases rest with
  | nil => cases found
  | cons last above =>
    dsimp only at found
    obtain ⟨directory, followed, found⟩ := bind_eq_ok.mp found
    by_cases isDirectory : disk.isDirectory directory = true
    · rw [if_neg (by simp [isDirectory])] at found
      by_cases dots : last = ['.'] ∨ last = ['.', '.']
      · rw [if_pos dots] at found
        cases found
      · rw [if_neg dots] at found
        cases found
        have turned := congrArg List.reverse split
        rw [List.reverse_reverse, List.reverse_append, List.reverse_cons, List.append_assoc,
          List.singleton_append] at turned
        rw [String.toList_ofList]
        refine ⟨isDirectory, ?_, fun parent => dots (.inr parent), above.reverse, _, turned.symm,
          ?_, followed⟩
        · unfold Path.isBlankPiece
          simpa using ⟨by simpa using notEmpty, fun dot => dots (.inl dot)⟩
        · intro piece member
          exact eq_of_beq (List.all_eq_true.mp empty piece (List.mem_reverse.mp member))
    · rw [if_pos (by simpa using isDirectory)] at found
      cases found

/-- A path leads to its last name, once there is something under it. -/
theorem locate_of_locateEnd {slashed : Bool} (keeps : KeepsDirectories before after)
    (found : before.locateEnd path = .ok ⟨location, .name name, slashed⟩)
    (checked : checkPath path = .ok ()) (short : name.utf8ByteSize ≤ nameLimit)
    (there : after.isDirectory (location ++ [name]) = true) :
    after.locate path = .ok (location ++ [name]) := by
  obtain ⟨isDirectory, notBlank, notParent, above, trailing, split, empty, followed⟩ :=
    locateEnd_eq_name found
  have isDirectoryAfter := keeps.directories location isDirectory
  have start : after.start path = before.start path := by
    unfold Disk.start
    rw [keeps.working]
  have followedAfter := foldlM_follow_keeps keeps followed (isSome_of_isDirectory isDirectoryAfter)
  have last := follow_there isDirectoryAfter notBlank notParent short (isSome_of_isDirectory there)
  have stays : trailing.foldlM after.follow (location ++ [name]) = .ok (location ++ [name]) := by
    clear split
    induction trailing with
    | nil => rfl
    | cons piece rest inductionHypothesis =>
      obtain ⟨rfl, others⟩ := List.forall_mem_cons.mp empty
      rw [List.foldlM_cons, follow_blank there (by rfl), ok_bind]
      exact inductionHypothesis others
  unfold locate
  rw [checked, ok_bind, split, List.foldlM_append, start, followedAfter, ok_bind,
    List.foldlM_cons, last, ok_bind, stays]

/-- The destination of a path is the name at its end. -/
theorem destination_of_locateEnd {slashed : Bool}
    (found : disk.locateEnd path = .ok ⟨location, .name name, slashed⟩) :
    disk.destination path = location ++ [name] := by
  obtain ⟨isDirectory, notBlank, notParent, above, trailing, split, empty, followed⟩ :=
    locateEnd_eq_name found
  have stays : ∀ start, trailing.foldl stepTo start = start := by
    clear split
    intro start
    induction trailing with
    | nil => rfl
    | cons piece rest inductionHypothesis =>
      obtain ⟨rfl, others⟩ := List.forall_mem_cons.mp empty
      exact inductionHypothesis others
  unfold destination Path.names
  rw [foldl_stepTo_filter, split, List.foldl_append, ← foldlM_follow_eq_ok followed,
    List.foldl_cons, stays, stepTo, if_neg (by simp [notBlank]), if_neg notParent,
    String.ofList_toList]

/-- The content of a name in a directory is that of the file under it. -/
theorem Leads.contentAt_child (leads : disk.Leads directory location)
    (single : Path.IsSingle name) (checked : checkPath (directory.child name) = .ok ())
    (short : name.utf8ByteSize ≤ nameLimit) :
    disk.contentAt (directory.child name) =
      match disk.node? (location ++ [name]) with
      | some (.file content) => .ok content
      | some .directory => .error .isDirectory
      | none => .error .notFound := by
  unfold contentAt
  rw [leads.locate_child single checked short]
  cases found : disk.node? (location ++ [name]) with
  | none => rfl
  | some node =>
    rw [if_pos (by rfl : (some node).isSome = true), ok_bind, found]
    cases node <;> rfl

/-- Content is read where a path can be followed to a file. -/
theorem contentAt_eq_ok {content : ByteArray} :
    disk.contentAt path = .ok content ↔
      ∃ location, disk.locate path = .ok location ∧
        disk.node? location = some (.file content) := by
  unfold contentAt
  rw [bind_eq_ok]
  refine exists_congr fun location => and_congr_right fun _ => ?_
  cases disk.node? location with
  | none => simp [throw, throwThe, MonadExceptOf.throw]
  | some node =>
    cases node <;> simp [throw, throwThe, MonadExceptOf.throw, pure, Except.pure]

/-- The content of a path is that of a file at its destination. -/
theorem node?_of_contentAt {content : ByteArray} (found : disk.contentAt path = .ok content) :
    disk.node? (disk.destination path) = some (.file content) := by
  obtain ⟨location, located, there⟩ := contentAt_eq_ok.mp found
  rwa [locate_eq_destination located] at there

/-- A path that leads to a file still does, if there is still a file. -/
theorem contentAt_keeps {content other : ByteArray} (keeps : KeepsDirectories before after)
    (found : before.contentAt path = .ok content)
    (there : after.node? (before.destination path) = some (.file other)) :
    after.contentAt path = .ok other := by
  obtain ⟨location, located, _⟩ := contentAt_eq_ok.mp found
  rw [← locate_eq_destination located] at there
  exact contentAt_eq_ok.mpr ⟨location, locate_keeps keeps located (by rw [there]; rfl), there⟩

end Disk
end QuizFeed.Files
