import QuizFeed.Proofs.Files.Following
import QuizFeed.Proofs.Files.Parents

/-!
# When directories can be made

In a tree, making sure of a directory succeeds exactly when its path can be made to lead to one by
adding directories on the way, where devices take them (`Program.ensureDirectory_ok_iff`,
`Disk.Makeable`). For a path that
ends in `.` only directories on the way to its parent are added: the last name is asked for together
with the final `.`, which no directory is made under (`Program.makeDirectories_grows_dot`).
-/

namespace QuizFeed

namespace Files.Disk

variable {disk middle after : Disk} {path parent : Path} {location start : Location}
  {places others : Location → Prop} {pieces : List (List Char)}

/-- In a tree, a directory lies in a directory. -/
theorem IsTree.isDirectory_dropLast (tree : disk.IsTree)
    (isDirectory : disk.isDirectory location = true) :
    disk.isDirectory location.dropLast = true := by
  rcases List.eq_nil_or_concat location with rfl | ⟨above, name, rfl⟩
  · exact isDirectory
  · rw [List.concat_eq_append] at isDirectory ⊢
    rw [List.dropLast_concat]
    exact tree _ _ (isSome_of_isDirectory isDirectory)

/-- Making a directory in a tree leaves a tree. -/
theorem IsTree.makeDirectory (tree : disk.IsTree) (made : disk.makeDirectory path = .ok after) :
    after.IsTree := by
  obtain ⟨location, name, slashed, found, checked, short, absent, -, rfl⟩ :=
    exists_of_makeDirectory made
  have keeps := (makeDirectory_eq_ok made).1.keepsDirectories
  intro above last there
  refine keeps.directories above ?_
  rw [node?_put_last] at there
  split at there
  case isTrue same =>
    obtain ⟨rfl, -⟩ := List.append_inj' same rfl
    exact (locateEnd_eq_name found).1
  case isFalse => exact tree above last there

/-- A disk that has grown on the way to another one still grows to that. -/
theorem Grows.between (first : disk.Grows places middle) (whole : disk.Grows others after)
    (inside : ∀ location, places location → after.isDirectory location = true) :
    middle.Grows others after := by
  refine ⟨whole.working.trans first.working.symm, whole.faults.trans first.faults.symm,
    fun location => ?_⟩
  rcases first.nodes location with same | ⟨place, -, present⟩
  · rw [same]
    exact whole.nodes location
  · rw [present, isDirectory_iff.mp (inside location place)]
    exact .inl rfl

/-- A piece that leads from a directory to one on a disk that has grown leads to nothing yet, or to
that directory. -/
theorem follow_cases {piece : List Char} (tree : disk.IsTree) (grows : disk.Grows places after)
    (here : disk.isDirectory start = true)
    (short : Path.isBlankPiece piece = false → piece ≠ ['.', '.'] →
      (String.ofList piece).utf8ByteSize ≤ nameLimit)
    (next : after.isDirectory (stepTo start piece) = true) :
    disk.follow start piece = .error .notFound ∨
      disk.follow start piece = .ok (stepTo start piece) ∧
        disk.isDirectory (stepTo start piece) = true := by
  by_cases blank : Path.isBlankPiece piece = true
  · rw [stepTo, if_pos blank]
    exact .inr ⟨follow_blank here blank, here⟩
  unfold follow
  unfold stepTo at next ⊢
  rw [if_neg blank] at next
  rw [if_neg (by simp [here]), if_neg blank, if_neg blank]
  by_cases isParent : piece = ['.', '.']
  · rw [if_pos isParent, if_pos isParent]
    exact .inr ⟨rfl, tree.isDirectory_dropLast here⟩
  · have fits := short (by simpa using blank) isParent
    rw [if_neg isParent] at next
    rw [if_neg isParent, if_neg isParent]
    dsimp only
    rw [if_neg (by omega)]
    cases found : disk.node? (start ++ [String.ofList piece]) with
    | none => exact .inl rfl
    | some node =>
      rw [isDirectory_iff, grows.node?_of_some found] at next
      exact .inr ⟨rfl, isDirectory_iff.mpr (found.trans next)⟩

/-- Where a path misses something that directories can make up for, that is all that is wrong. -/
theorem foldlM_follow_missing (tree : disk.IsTree) (grows : disk.Grows places after)
    (short : ∀ piece ∈ pieces, Path.isBlankPiece piece = false → piece ≠ ['.', '.'] →
      (String.ofList piece).utf8ByteSize ≤ nameLimit)
    (through : ∀ front, front <+: pieces.filter (!Path.isBlankPiece ·) →
      after.isDirectory (front.foldl stepTo start) = true)
    (here : disk.isDirectory start = true)
    (missing : ∃ front, front <+: pieces.filter (!Path.isBlankPiece ·) ∧
      disk.isDirectory (front.foldl stepTo start) = false) :
    pieces.foldlM disk.follow start = .error .notFound := by
  induction pieces generalizing start with
  | nil =>
    obtain ⟨front, inside, lost⟩ := missing
    obtain rfl := List.prefix_nil.mp inside
    rw [List.foldl_nil, here] at lost
    cases lost
  | cons piece rest inductionHypothesis =>
    obtain ⟨shortFirst, shortRest⟩ := List.forall_mem_cons.mp short
    rw [List.foldlM_cons]
    by_cases blank : Path.isBlankPiece piece = true
    · rw [List.filter_cons_of_neg (by simp [blank])] at through missing
      rw [follow_blank here blank, ok_bind]
      exact inductionHypothesis shortRest through here missing
    · rw [List.filter_cons_of_pos (by simp [blank])] at through missing
      have throughRest : ∀ front, front <+: rest.filter (!Path.isBlankPiece ·) →
          after.isDirectory (front.foldl stepTo (stepTo start piece)) = true :=
        fun front inside => through (piece :: front) (List.cons_prefix_cons.mpr ⟨rfl, inside⟩)
      obtain ⟨front, inside, lost⟩ := missing
      rcases List.prefix_cons_iff.mp inside with rfl | ⟨front, rfl, behind⟩
      · rw [List.foldl_nil, here] at lost
        cases lost
      rcases follow_cases tree grows here shortFirst (throughRest [] List.nil_prefix) with
        absent | ⟨followed, there⟩
      · rw [absent]
        rfl
      · rw [followed, ok_bind]
        exact inductionHypothesis shortRest throughRest there ⟨front, behind, lost⟩

/-- Following a path to its last piece is following the pieces above it. -/
theorem exists_locateEnd {above trailing : List (List Char)} {last : List Char}
    (split : Path.pieces path.text.toList = above ++ last :: trailing) (some : last ≠ [])
    (empty : ∀ piece ∈ trailing, piece = []) :
    ∃ slashed, disk.locateEnd path = above.foldlM disk.follow (disk.start path) >>=
      fun directory =>
        if disk.isDirectory directory = false then .error .notDirectory
        else if last = ['.'] ∨ last = ['.', '.'] then .ok ⟨directory, .dots, slashed⟩
        else .ok ⟨directory, .name (String.ofList last), slashed⟩ := by
  have turned : (Path.pieces path.text.toList).reverse =
      trailing.reverse ++ last :: above.reverse := by
    rw [split]
    simp
  have rest : (trailing.reverse ++ last :: above.reverse).dropWhile (· == []) =
      last :: above.reverse := by
    rw [List.dropWhile_append_of_pos, List.dropWhile_cons_of_neg (by simpa using some)]
    intro piece member
    rw [empty piece (List.mem_reverse.mp member)]
    rfl
  refine ⟨(Path.pieces path.text.toList).reverse.head? == .some [], ?_⟩
  unfold locateEnd
  dsimp only
  rw [turned, rest]
  dsimp only
  rw [List.reverse_reverse]
  refine bind_congr fun directory => ?_
  cases disk.isDirectory directory with
  | true => rfl
  | false => rfl

section Attempt

variable (tree : disk.IsTree) (grows : disk.Grows places after) (leads : after.Leads path location)
  (some : path.text ≠ "")
  (taken : ∀ location, places location → (disk.fault location.dropLast).making = none)

include grows leads in
theorem Grows.isDirectory_of_names {front : List (List Char)} (inside : front <+: path.names) :
    after.isDirectory (front.foldl stepTo (disk.start path)) = true := by
  refine leads.isDirectory_of_waypoint ⟨front, inside, ?_⟩
  unfold Disk.start
  rw [grows.working]

include leads some in
/-- Where every name on the way of a path leads to a directory, the path leads to one. -/
theorem Leads.kindAt_of_names (all : ∀ front, front <+: path.names →
    disk.isDirectory (front.foldl stepTo (disk.start path)) = true) :
    disk.kindAt path = .ok .directory := by
  refine (leads_of_waypoints (fun _ => leads.checked some) (fun _ => leads.short) ?_).kindAt some
  rintro _ ⟨front, inside, rfl⟩
  exact all front inside

include leads in
theorem Leads.short_above {above trailing : List (List Char)} {last : List Char}
    (split : Path.pieces path.text.toList = above ++ last :: trailing) :
    ∀ piece ∈ above, Path.isBlankPiece piece = false → piece ≠ ['.', '.'] →
      (String.ofList piece).utf8ByteSize ≤ nameLimit := by
  intro piece member notBlank
  refine leads.short (List.mem_filter.mpr ⟨?_, by simp [notBlank]⟩)
  exact split ▸ List.mem_append_left _ member

include leads some in
/-- A path that is made up of slashes leads to the root. -/
theorem makeDirectory_of_root (here : disk.isDirectory (disk.start path) = true)
    (none : path.lastPiece? = none) :
    disk.makeDirectory path = .error .alreadyExists ∧ disk.kindAt path = .ok .directory := by
  have atRoot : ∃ slashed, disk.locateEnd path = .ok ⟨disk.start path, .root, slashed⟩ := by
    have none := List.head?_eq_none_iff.mp none
    unfold locateEnd
    dsimp only
    rw [none]
    exact ⟨_, rfl⟩
  have noNames : path.names = [] := by
    refine List.filter_eq_nil_iff.mpr fun piece member => ?_
    rw [Path.eq_nil_of_lastPiece? none piece member]
    decide
  obtain ⟨slashed, ends⟩ := atRoot
  unfold makeDirectory
  rw [leads.checked some, ok_bind, ends]
  refine ⟨rfl, leads.kindAt_of_names some fun front inside => ?_⟩
  rw [noNames] at inside
  rwa [List.prefix_nil.mp inside]

include tree grows leads some taken in
/-- Where all that comes before the last piece of a path is there, the directory is made or it is
there as well. -/
theorem makeDirectory_of_upper {last : List Char} (isLast : path.lastPiece? = .some last)
    (all : ∀ front, front <+: path.upper →
      disk.isDirectory (front.foldl stepTo (disk.start path)) = true) :
    (∃ made, disk.makeDirectory path = .ok made) ∨
    (disk.makeDirectory path = .error .alreadyExists ∧ disk.kindAt path = .ok .directory) := by
  obtain ⟨above, trailing, split, notEmpty, empty⟩ := Path.exists_of_lastPiece? isLast
  have names := Path.names_of_split split empty
  obtain ⟨slashed, ends⟩ := exists_locateEnd split notEmpty empty
  rw [Path.upper_of_split isLast split notEmpty empty] at all
  have isDirectory : disk.isDirectory (above.foldl stepTo (disk.start path)) = true := by
    rw [← foldl_stepTo_filter]
    exact all _ (List.prefix_refl _)
  unfold makeDirectory
  rw [leads.checked some, ok_bind, ends,
    foldlM_follow_of_directories (leads.short_above split) all, ok_bind,
    if_neg (by simp [isDirectory])]
  by_cases dots : last = ['.'] ∨ last = ['.', '.']
  · rw [if_pos dots]
    refine .inr ⟨rfl, leads.kindAt_of_names some fun front inside => ?_⟩
    rw [names] at inside
    rcases dots with rfl | rfl
    · exact all front (inside.trans (List.append_nil _ ▸ List.prefix_refl _))
    · rcases List.prefix_concat_iff.mp inside with rfl | behind
      · rw [List.foldl_append, foldl_stepTo_filter]
        exact tree.isDirectory_dropLast isDirectory
      · exact all front behind
  · rw [if_neg dots]
    obtain ⟨notDot, notParent⟩ := not_or.mp dots
    have notBlank : Path.isBlankPiece last = false := by
      simp [Path.isBlankPiece, notEmpty, notDot]
    rw [List.filter_cons_of_pos (by simp [notBlank]), List.filter_nil] at names
    have fits := leads.short (names ▸ List.mem_append_right _ List.mem_cons_self) notParent
    have place : path.names.foldl stepTo (disk.start path) =
        above.foldl stepTo (disk.start path) ++ [String.ofList last] := by
      rw [names, List.foldl_append, foldl_stepTo_filter, List.foldl_cons, List.foldl_nil, stepTo,
        if_neg (by simp [notBlank]), if_neg notParent]
    dsimp only [ok_bind]
    rw [if_neg (by omega)]
    have isThere := grows.isDirectory_of_names leads (List.prefix_refl path.names)
    rw [place, isDirectory_iff] at isThere
    cases there : disk.node? (above.foldl stepTo (disk.start path) ++ [String.ofList last]) with
    | none =>
      rcases grows.nodes (above.foldl stepTo (disk.start path) ++ [String.ofList last]) with
        same | ⟨added, -⟩
      · rw [same, there] at isThere
        cases isThere
      · have free := taken _ added
        rw [List.dropLast_concat] at free
        rw [free]
        exact .inl ⟨_, rfl⟩
    | some node =>
      refine .inr ⟨rfl, leads.kindAt_of_names some fun front inside => ?_⟩
      rw [names] at inside
      rcases List.prefix_concat_iff.mp inside with same | behind
      · rw [grows.node?_of_some there] at isThere
        rw [same, ← names, place, isDirectory_iff, there, isThere]
      · exact all front behind

include tree grows leads some taken in
/-- An attempt at making a directory where it could be made if some others were there: it is made,
or it is there, or one of the others is missing. -/
theorem makeDirectory_cases (here : disk.isDirectory (disk.start path) = true) :
    (∃ made, disk.makeDirectory path = .ok made) ∨
    (disk.makeDirectory path = .error .alreadyExists ∧ disk.kindAt path = .ok .directory) ∨
    (disk.makeDirectory path = .error .notFound ∧
      ∃ front, front <+: path.upper ∧
        disk.isDirectory (front.foldl stepTo (disk.start path)) = false) := by
  cases isLast : path.lastPiece? with
  | none => exact .inr (.inl (makeDirectory_of_root leads some here isLast))
  | some last =>
    by_cases missing : ∃ front, front <+: path.upper ∧
        disk.isDirectory (front.foldl stepTo (disk.start path)) = false
    · obtain ⟨above, trailing, split, notEmpty, empty⟩ := Path.exists_of_lastPiece? isLast
      obtain ⟨slashed, ends⟩ := exists_locateEnd split notEmpty empty
      refine .inr (.inr ⟨?_, missing⟩)
      rw [Path.upper_of_split isLast split notEmpty empty] at missing
      unfold makeDirectory
      rw [leads.checked some, ok_bind, ends, foldlM_follow_missing tree grows
        (leads.short_above split) (fun front inside => ?_) here missing]
      · rfl
      · refine grows.isDirectory_of_names leads ?_
        rw [Path.names_of_split split empty]
        exact inside.trans (List.prefix_append _ _)
    · have all : ∀ front, front <+: path.upper →
          disk.isDirectory (front.foldl stepTo (disk.start path)) = true := fun front inside =>
        Bool.of_not_eq_false fun lost => missing ⟨front, inside, lost⟩
      rcases makeDirectory_of_upper tree grows leads some taken isLast all with made | there
      · exact .inl made
      · exact .inr (.inl there)

end Attempt

/-- Where directories are added when one is made: on the way of its path, where devices take them.
What leads up to a final `.` is not made, only the way to the parent is. -/
def Addable (disk : Disk) (path : Path) (location : Location) : Prop :=
  if path.lastPiece? = some ['.'] then
    ∃ parent, path.parent? = some parent ∧ disk.Buildable parent location
  else disk.Buildable path location

/-- Where a directory can be added, the device above does not fail at making it. -/
theorem Addable.making (addable : disk.Addable path location) :
    (disk.fault location.dropLast).making = none := by
  unfold Addable at addable
  split at addable
  · obtain ⟨parent, -, buildable⟩ := addable
    exact buildable.2
  · exact addable.2

/-- Whether a path that starts in a directory leads to one once directories are added on its way,
where devices take them. -/
def Makeable (disk : Disk) (path : Path) : Prop :=
  disk.isDirectory (disk.start path) = true ∧
    ∃ after, disk.Grows (disk.Addable path) after ∧ after.kindAt path = .ok .directory

/-- What a path that ends in `.` leads to once directories are added was there, or it is on the way
of the parent. -/
theorem Grows.isDirectory_or_waypoint (grows : disk.Grows (disk.Addable path) after)
    (leads : after.Leads path location) (ends : path.lastPiece? = some ['.'])
    (above : path.parent? = some parent) :
    disk.isDirectory (disk.destination path) = true ∨
      disk.Waypoint parent (disk.destination path) := by
  have there := leads.isDirectory
  rw [leads.eq_destination, destination_of_working grows.working, isDirectory_iff] at there
  rcases grows.nodes (disk.destination path) with same | ⟨place, -⟩
  · exact .inl (isDirectory_iff.mpr (same.symm.trans there))
  · unfold Addable at place
    rw [if_pos ends] at place
    obtain ⟨other, found, buildable⟩ := place
    obtain rfl := Option.some.inj (found.symm.trans above)
    exact .inr buildable.1

/-- Where a path does not start in a directory, a directory is not made, but not for want of those
above. -/
theorem makeDirectory_of_lost (lost : disk.isDirectory (disk.start path) = false)
    (some : path.text ≠ "") :
    ∃ cause, cause ≠ .notFound ∧ disk.makeDirectory path = .error cause := by
  unfold makeDirectory
  cases checked : checkPath path with
  | error cause =>
    refine ⟨cause, ?_, rfl⟩
    rintro rfl
    exact checkPath_ne_notFound some checked
  | ok =>
    refine ⟨.notDirectory, by decide, ?_⟩
    rw [ok_bind]
    cases isLast : path.lastPiece? with
    | none =>
      unfold Disk.start at lost
      rw [if_pos (Path.isAbsolute_of_lastPiece? isLast some)] at lost
      cases lost
    | some last =>
      obtain ⟨above, trailing, split, notEmpty, empty⟩ := Path.exists_of_lastPiece? isLast
      obtain ⟨slashed, ends⟩ := exists_locateEnd split notEmpty empty
      rw [ends]
      cases above with
      | nil =>
        rw [List.foldlM_nil]
        change (if disk.isDirectory (disk.start path) = false then _ else _) >>= _ = _
        rw [if_pos lost]
        rfl
      | cons first rest =>
        have stuck : disk.follow (disk.start path) first = .error .notDirectory := by
          unfold follow
          rw [if_pos (by simp [lost])]
        rw [List.foldlM_cons, stuck]
        rfl

/-- A path that leads to a directory starts in one. -/
theorem isDirectory_start (found : disk.kindAt path = .ok .directory) :
    disk.isDirectory (disk.start path) = true := by
  obtain ⟨_, leads⟩ := leads_of_kindAt found
  exact leads.isDirectory_of_waypoint ⟨[], List.nil_prefix, rfl⟩

/-- A directory is not made under a name `.`. -/
theorem makeDirectory_ne_ok (dot : path.lastPiece? = some ['.']) (made : Disk) :
    disk.makeDirectory path ≠ .ok made := by
  intro success
  obtain ⟨location, name, slashed, found, -⟩ := exists_of_makeDirectory success
  obtain ⟨above, trailing, split, notEmpty, empty⟩ := Path.exists_of_lastPiece? dot
  obtain ⟨slashes, ends⟩ := exists_locateEnd split notEmpty empty
  rw [ends] at found
  obtain ⟨directory, _, found⟩ := bind_eq_ok.mp found
  split at found
  · cases found
  · rw [if_pos (.inl rfl)] at found
    cases found

/-- What leads to a file leads to no directory on a disk that has grown. -/
theorem Grows.kindAt_ne_directory (grows : disk.Grows places after)
    (found : disk.kindAt path = .ok .file) : after.kindAt path ≠ .ok .directory := by
  intro foundAfter
  obtain ⟨location, located, kind⟩ := bind_eq_ok.mp found
  obtain ⟨other, locatedAfter, isDirectory⟩ := kindAt_eq_directory_iff.mp foundAfter
  obtain rfl := (locate_eq_destination locatedAfter).trans
    ((destination_of_working grows.working path).trans (locate_eq_destination located).symm)
  rw [isDirectory_iff] at isDirectory
  cases there : disk.node? other with
  | none =>
    rw [there] at kind
    cases kind
  | some node =>
    rw [grows.node?_of_some there] at isDirectory
    cases isDirectory
    rw [there] at kind
    cases kind

/-- The parent of a path leads to a directory where the path does. -/
theorem Leads.of_parent? (leads : disk.Leads path location) (some : path.text ≠ "")
    (above : path.parent? = .some parent) : disk.Leads parent (disk.destination parent) := by
  refine leads_of_waypoints (fun named => checkPath_of_prefix (Path.text_prefix_of_parent? above)
    named (leads.checked some)) (fun piece member => leads.short ?_)
    fun other waypoint => leads.isDirectory_of_waypoint (waypoint.of_parent? above)
  exact (Path.names_prefix_of_parent? above).1.subset member

end Files.Disk

namespace Program

open Files

variable {ε : Type} (outside : Outside ε) {path : Path} {world : World ε}

/-- Settling for a directory that is there succeeds, whatever the attempt to make it answered. -/
theorem settleDirectory_ok (found : world.disk.kindAt path = .ok .directory)
    (answer : Except Cause Unit) :
    ((settleDirectory path answer).run outside world).1 = .ok () := by
  cases answer with
  | ok => rfl
  | error cause =>
    simp only [settleDirectory, run_bind, run_inspect]
    rw [found]
    rfl

/-- An attempt at a directory that can be made or is there succeeds. -/
theorem attempt_ok (makes : (∃ made, world.disk.makeDirectory path = .ok made) ∨
    (world.disk.makeDirectory path = .error .alreadyExists ∧
      world.disk.kindAt path = .ok .directory)) :
    ((makeDirectory path >>= fun answer => settleDirectory path answer).run outside world).1 =
      .ok () := by
  rw [run_bind, run_makeDirectory]
  rcases makes with ⟨made, success⟩ | ⟨failure, found⟩
  · rw [success]
    rfl
  · rw [failure]
    exact settleDirectory_ok outside found _

/-- Making directories in a tree leaves a tree. -/
theorem tree_makeDirectories (path : Path) (tree : world.disk.IsTree) :
    ((makeDirectories path).run outside world).2.disk.IsTree := by
  refine Confined.invariant (fun world => world.disk.IsTree)
    (fun effect onDirectories world tree => ?_) (confined_makeDirectories path) tree
  cases effect with
  | inspect => exact tree
  | makeDirectory path =>
    simp only [World.answer, World.change]
    cases made : world.disk.makeDirectory path with
    | error cause => exact tree
    | ok disk => exact tree.makeDirectory made
  | _ => cases onDirectories

/-- Once the parent of a path is there, an attempt at the path succeeds where the path leads to a
directory on a disk that has grown. -/
theorem attempt_of_parent {places : Location → Prop} {before after : Disk} {location : Location}
    {parent : Path} {final : List Char}
    (grew : before.Grows (before.Buildable parent) world.disk) (tree : world.disk.IsTree)
    (grows : before.Grows places after) (leads : after.Leads path location)
    (taken : ∀ location, places location → (before.fault location.dropLast).making = none)
    (named : path.text ≠ "") (here : before.isDirectory (before.start path) = true)
    (above : path.parent? = some parent) (names : path.names = parent.names ++ [final])
    (ready : parent.text = "" ∨ world.disk.kindAt parent = .ok .directory)
    (dot : path.lastPiece? = some ['.'] → ∀ parent, path.parent? = some parent →
      before.isDirectory (before.destination path) = true ∨
        before.Waypoint parent (before.destination path)) :
    ((makeDirectory path >>= fun answer => settleDirectory path answer).run outside world).1 =
      .ok () := by
  have keeps := grew.keepsDirectories
  have start : world.disk.start path = before.start path := by
    unfold Disk.start
    rw [grew.working]
  have startParent : before.start parent = before.start path :=
    Disk.start_eq_of_isAbsolute (Path.names_prefix_of_parent? above).2
  have through : ∀ other, before.Waypoint parent other → world.disk.isDirectory other = true := by
    intro other waypoint
    rcases ready with empty | found
    · obtain ⟨front, inside, rfl⟩ := waypoint
      unfold Path.names at inside
      rw [empty] at inside
      rw [List.prefix_nil.mp inside, List.foldl_nil, startParent]
      exact keeps.directories _ here
    · obtain ⟨_, leadsParent⟩ := Disk.leads_of_kindAt found
      exact leadsParent.isDirectory_of_waypoint
        ((Disk.waypoint_of_working grew.working).mpr waypoint)
  have grown := grew.between grows fun other ⟨waypoint, _⟩ => by
    rw [← Disk.waypoint_of_working grows.working] at waypoint
    exact leads.isDirectory_of_waypoint (waypoint.of_parent? above)
  refine attempt_ok outside ?_
  rcases Disk.makeDirectory_cases tree grown leads named
    (fun location place => Disk.fault_of_faults grew.faults _ ▸ taken location place)
    (start ▸ keeps.directories _ here) with made | there | ⟨-, front, inside, lost⟩
  · exact .inl made
  · exact .inr there
  · rw [start] at lost
    rcases Path.prefix_upper names inside with inside | ⟨ends, rfl⟩
    · rw [← startParent, through _ ⟨front, inside, rfl⟩] at lost
      cases lost
    · rcases dot ends parent above with isDirectory | waypoint
      · exact absurd (keeps.directories _ isDirectory) (Bool.eq_false_iff.mp lost)
      · exact absurd (through _ waypoint) (Bool.eq_false_iff.mp lost)

/-- Making directories succeeds where the path leads to a directory on a disk that has grown. Before
a final `.` nothing is made that the way to the parent does not lead through. -/
theorem makeDirectories_ok {places : Location → Prop} {after : Disk} {location : Location}
    (tree : world.disk.IsTree) (grows : world.disk.Grows places after)
    (leads : after.Leads path location)
    (taken : ∀ location, places location → (world.disk.fault location.dropLast).making = none)
    (here : world.disk.isDirectory (world.disk.start path) = true)
    (dot : path.lastPiece? = some ['.'] → ∀ parent, path.parent? = some parent →
      world.disk.isDirectory (world.disk.destination path) = true ∨
        world.disk.Waypoint parent (world.disk.destination path)) :
    ((makeDirectories path).run outside world).1 = .ok () := by
  generalize size : path.text.toList.length = length
  induction length using Nat.strongRecOn generalizing path location with
  | _ length inductionHypothesis =>
    rw [makeDirectories]
    split
    case isTrue => rfl
    case isFalse named =>
      have attempt := Disk.makeDirectory_cases tree grows leads named taken here
      rw [run_bind, run_makeDirectory]
      rcases attempt with ⟨made, success⟩ | ⟨failure, found⟩ | ⟨failure, front, inside, lost⟩
      · rw [success]
        rfl
      · rw [failure]
        exact settleDirectory_ok outside found _
      · rw [failure]
        simp only [Except.map, World.change]
        have names : ∃ parent final, path.parent? = some parent ∧
            path.names = parent.names ++ [final] :=
          Path.exists_of_upper fun none => by
            rw [none] at inside
            rw [List.prefix_nil.mp inside, List.foldl_nil, here] at lost
            cases lost
        obtain ⟨parent, final, above, names⟩ := names
        split
        case h_1 none =>
          rw [above] at none
          cases none
        case h_2 other found =>
          obtain rfl := Option.some.inj (found.symm.trans above)
          subst size
          have start : world.disk.start other = world.disk.start path :=
            Disk.start_eq_of_isAbsolute (Path.names_prefix_of_parent? above).2
          have made := inductionHypothesis _ (Path.length_parent? above)
            (leads.of_parent? named above) (start ▸ here) (fun ends parent _ => ?_) rfl
          · obtain ⟨grew, ready⟩ := makes_makeDirectories outside other world
            have treeBelow := tree_makeDirectories outside other tree
            rw [run_bind, made]
            exact attempt_of_parent outside grew treeBelow grows leads taken named here above names
              (ready made) dot
          · refine .inl ?_
            unfold Disk.destination
            rw [Path.names_of_parent?_dot above ends, start]
            exact here

/-- Settling changes nothing. -/
theorem settleDirectory_world (path : Path) (answer : Except Cause Unit) (world : World ε) :
    ((settleDirectory path answer).run outside world).2 = world := by
  unfold settleDirectory
  split
  case h_1 => rfl
  case h_2 =>
    rw [run_bind, run_inspect]
    split <;> rfl

/-- For a path that ends in `.`, only the way to the parent is made. -/
theorem makeDirectories_grows_dot (dot : path.lastPiece? = some ['.']) (world : World ε) :
    world.disk.Grows (world.disk.Addable path)
      ((makeDirectories path).run outside world).2.disk := by
  have attempt (world : World ε) : ∃ cause, (makeDirectory path).run outside world =
      (.error cause, world) := by
    rw [run_makeDirectory]
    cases made : world.disk.makeDirectory path with
    | error cause => exact ⟨cause, rfl⟩
    | ok disk => exact absurd made (Disk.makeDirectory_ne_ok dot disk)
  rw [makeDirectories]
  split
  case isTrue => exact .refl _ _
  case isFalse =>
    obtain ⟨cause, failed⟩ := attempt world
    rw [run_bind, failed]
    dsimp only
    split
    case h_2 =>
      rw [settleDirectory_world]
      exact .refl _ _
    case h_1 =>
      split
      case h_1 => exact .refl _ _
      case h_2 parent above =>
        have grows : world.disk.Grows (world.disk.Addable path)
            ((makeDirectories parent).run outside world).2.disk := by
          refine (makes_makeDirectories outside parent world).1.mono fun location buildable => ?_
          unfold Disk.Addable
          rw [if_pos dot]
          exact ⟨parent, above, buildable⟩
        rw [run_bind]
        generalize (makeDirectories parent).run outside world = result at grows ⊢
        obtain ⟨answer, after⟩ := result
        cases answer with
        | error cause => exact grows
        | ok =>
          obtain ⟨cause, failedAgain⟩ := attempt after
          dsimp only
          rw [run_bind, failedAgain, settleDirectory_world]
          exact grows

/-- Making directories adds them where it may. -/
theorem makeDirectories_grows (path : Path) (world : World ε) :
    world.disk.Grows (world.disk.Addable path)
      ((makeDirectories path).run outside world).2.disk := by
  by_cases dot : path.lastPiece? = some ['.']
  · exact makeDirectories_grows_dot outside dot world
  · refine (makes_makeDirectories outside path world).1.mono fun location buildable => ?_
    unfold Disk.Addable
    rwa [if_neg dot]

/-- Directories are made from a directory on only. -/
theorem isDirectory_start_of_made (made : ((makeDirectories path).run outside world).1 = .ok ())
    (named : path.text ≠ "") : world.disk.isDirectory (world.disk.start path) = true := by
  refine Bool.of_not_eq_false fun lost => ?_
  obtain ⟨cause, other, failed⟩ := Disk.makeDirectory_of_lost lost named
  rw [makeDirectories, if_neg named, run_bind, run_makeDirectory, failed] at made
  simp only [Except.map, World.change] at made
  split at made
  case h_1 same => exact other (Except.error.inj same)
  case h_2 =>
    simp only [settleDirectory, run_bind, run_inspect] at made
    split at made
    case h_1 found =>
      rw [Disk.isDirectory_start found] at lost
      cases lost
    case h_2 => cases made

/-- Where making sure of a directory succeeds, the path can be made one that leads to a
directory. -/
theorem makeable_of_ensureDirectory (named : path.text ≠ "")
    (ensured : ((ensureDirectory path).run outside world).1 = .ok ()) :
    world.disk.Makeable path := by
  unfold ensureDirectory at ensured
  rw [run_bind, run_inspect] at ensured
  split at ensured
  case h_1 found => exact ⟨Disk.isDirectory_start found, world.disk, .refl _ _, found⟩
  case h_2 => cases ensured
  case h_3 =>
    rw [run_bind] at ensured
    have made : ((makeDirectories path).run outside world).1 = .ok () := by
      split at ensured
      case h_1 success => exact success
      case h_2 => cases ensured
    exact ⟨isDirectory_start_of_made outside made named, _,
      makeDirectories_grows outside path world,
      ((makes_makeDirectories outside path world).2 made).resolve_left named⟩

/-- Making sure of a directory succeeds where the path can be made one that leads to a directory. -/
theorem ensureDirectory_ok (tree : world.disk.IsTree) (makeable : world.disk.Makeable path) :
    ((ensureDirectory path).run outside world).1 = .ok () := by
  obtain ⟨here, after, grows, found⟩ := makeable
  unfold ensureDirectory
  rw [run_bind, run_inspect]
  split
  case h_1 => rfl
  case h_2 isFile => exact absurd found (grows.kindAt_ne_directory isFile)
  case h_3 =>
    obtain ⟨location, leads⟩ := Disk.leads_of_kindAt found
    rw [run_bind, makeDirectories_ok outside tree grows leads (fun _ => Disk.Addable.making) here
      fun ends parent above => grows.isDirectory_or_waypoint leads ends above]
    rfl

/-- Making sure of a directory succeeds if the path is empty or can be made one that leads to a
directory, and only then. -/
theorem ensureDirectory_ok_iff (path : Path) (tree : world.disk.IsTree) :
    ((ensureDirectory path).run outside world).1 = .ok () ↔
      path.text = "" ∨ world.disk.Makeable path := by
  constructor
  · intro ensured
    by_cases empty : path.text = ""
    · exact .inl empty
    · exact .inr (makeable_of_ensureDirectory outside empty ensured)
  · rintro (empty | makeable)
    · unfold ensureDirectory
      rw [run_bind, run_inspect, Disk.kindAt_of_empty empty]
      dsimp only
      rw [run_bind, makeDirectories, if_pos empty]
      rfl
    · exact ensureDirectory_ok outside tree makeable

end Program

end QuizFeed
