import Mathlib.Data.List.Induction
import QuizFeed.Proofs.Files.Making
import QuizFeed.Proofs.Files.Parents

/-!
# Paths all of whose directories are there

A path leads to a directory when every location on its way is one (`leads_of_waypoints`), and only
then (`Leads.isDirectory_of_waypoint`). On a disk that is a tree, this is so wherever something lies
below the place to which a path without `..` leads (`IsTree.leads`).
-/

namespace QuizFeed.Files.Disk

variable {disk : Disk} {path directory : Path} {location start : Location}
  {pieces : List (List Char)} {name : String}

/-- The names among pieces that can be followed are no longer than names may be. -/
theorem short_of_followed {next : Location}
    (followed : pieces.foldlM disk.follow start = .ok next) {piece : List Char}
    (member : piece ∈ pieces) (notBlank : Path.isBlankPiece piece = false)
    (notParent : piece ≠ ['.', '.']) : (String.ofList piece).utf8ByteSize ≤ nameLimit := by
  induction pieces generalizing start with
  | nil => cases member
  | cons first rest inductionHypothesis =>
    rw [List.foldlM_cons, bind_eq_ok] at followed
    obtain ⟨middle, step, others⟩ := followed
    rcases List.mem_cons.mp member with rfl | inside
    · rcases (follow_eq_ok step).2.2 with blank | parent | ⟨short, _⟩
      · rw [notBlank] at blank
        cases blank
      · exact absurd parent notParent
      · exact short
    · exact inductionHypothesis others inside

/-- Pieces can be followed if all that they lead through are directories. -/
theorem foldlM_follow_of_directories
    (short : ∀ piece ∈ pieces, Path.isBlankPiece piece = false → piece ≠ ['.', '.'] →
      (String.ofList piece).utf8ByteSize ≤ nameLimit)
    (directories : ∀ front, front <+: pieces.filter (!Path.isBlankPiece ·) →
      disk.isDirectory (front.foldl stepTo start) = true) :
    pieces.foldlM disk.follow start = .ok (pieces.foldl stepTo start) := by
  induction pieces generalizing start with
  | nil => rfl
  | cons piece rest inductionHypothesis =>
    obtain ⟨shortFirst, shortRest⟩ := List.forall_mem_cons.mp short
    have here : disk.isDirectory start = true := directories [] List.nil_prefix
    rw [List.foldlM_cons, List.foldl_cons]
    by_cases blank : Path.isBlankPiece piece = true
    · rw [List.filter_cons_of_neg (by simp [blank])] at directories
      rw [follow_blank here blank, ok_bind, stepTo, if_pos blank]
      exact inductionHypothesis shortRest directories
    · rw [List.filter_cons_of_pos (by simp [blank])] at directories
      have next : disk.isDirectory (stepTo start piece) = true :=
        directories [piece] ⟨_, rfl⟩
      have followed : disk.follow start piece = .ok (stepTo start piece) := by
        unfold follow stepTo at *
        rw [if_neg (by simp [here]), if_neg blank]
        rw [if_neg blank] at next ⊢
        by_cases parent : piece = ['.', '.']
        · rw [if_pos parent, if_pos parent]
        · rw [if_neg parent] at next ⊢
          have fits := shortFirst (by simpa using blank) parent
          dsimp only
          rw [if_neg parent, if_neg (by omega), if_pos (isSome_of_isDirectory next)]
      rw [followed, ok_bind]
      refine inductionHypothesis shortRest fun front inside => ?_
      exact directories (piece :: front) (List.cons_prefix_cons.mpr ⟨rfl, inside⟩)

/-- A path leads to a directory if every location on its way is one. -/
theorem leads_of_waypoints (checked : path.text ≠ "" → checkPath path = .ok ())
    (short : ∀ piece ∈ path.names, piece ≠ ['.', '.'] →
      (String.ofList piece).utf8ByteSize ≤ nameLimit)
    (directories : ∀ location, disk.Waypoint path location → disk.isDirectory location = true) :
    disk.Leads path (disk.destination path) := by
  refine ⟨directories _ (waypoint_destination disk path), ?_⟩
  by_cases empty : path.text = ""
  · refine .inl ⟨empty, ?_⟩
    unfold destination Path.names Disk.start Path.isAbsolute
    rw [empty]
    rfl
  · refine .inr ⟨empty, ?_⟩
    unfold locate destination Path.names
    rw [checked empty, ok_bind, foldl_stepTo_filter]
    refine foldlM_follow_of_directories (fun piece member notBlank => ?_)
      fun front inside => directories _ ⟨front, inside, rfl⟩
    exact short piece (List.mem_filter.mpr ⟨member, by simp [notBlank]⟩)

/-- Whatever followed pieces lead through before the last name is a directory. -/
theorem isDirectory_of_front_ne {next : Location}
    (followed : pieces.foldlM disk.follow start = .ok next) {front : List (List Char)}
    (inside : front <+: pieces.filter (!Path.isBlankPiece ·))
    (before : front ≠ pieces.filter (!Path.isBlankPiece ·)) :
    disk.isDirectory (front.foldl stepTo start) = true := by
  induction pieces generalizing start front with
  | nil => exact absurd (List.prefix_nil.mp inside) before
  | cons piece rest inductionHypothesis =>
    rw [List.foldlM_cons, bind_eq_ok] at followed
    obtain ⟨second, first, others⟩ := followed
    obtain ⟨rfl, here, -⟩ := follow_eq_ok first
    by_cases blank : Path.isBlankPiece piece = true
    · rw [List.filter_cons_of_neg (by simp [blank])] at inside before
      rw [stepTo, if_pos blank] at others
      exact inductionHypothesis others inside before
    · rw [List.filter_cons_of_pos (by simp [blank])] at inside before
      rcases List.prefix_cons_iff.mp inside with rfl | ⟨front, rfl, behind⟩
      · exact here
      · exact inductionHypothesis others behind fun whole => before (by rw [whole])

/-- Whatever followed pieces lead through on their way to a directory is a directory. -/
theorem isDirectory_of_front {next : Location}
    (followed : pieces.foldlM disk.follow start = .ok next)
    (there : disk.isDirectory next = true) {front : List (List Char)}
    (inside : front <+: pieces.filter (!Path.isBlankPiece ·)) :
    disk.isDirectory (front.foldl stepTo start) = true := by
  by_cases whole : front = pieces.filter (!Path.isBlankPiece ·)
  · rw [whole, foldl_stepTo_filter, ← foldlM_follow_eq_ok followed]
    exact there
  · exact isDirectory_of_front_ne followed inside whole

/-- A path that leads to a directory leads through directories only. -/
theorem Leads.isDirectory_of_waypoint (leads : disk.Leads path location) {other : Location}
    (waypoint : disk.Waypoint path other) : disk.isDirectory other = true := by
  obtain ⟨front, inside, rfl⟩ := waypoint
  rcases leads.located with ⟨empty, rfl⟩ | ⟨_, located⟩
  · unfold Path.names at inside
    rw [empty] at inside
    obtain rfl := List.prefix_nil.mp inside
    have start : disk.start path = disk.working := by
      unfold Disk.start Path.isAbsolute
      rw [empty]
      rfl
    exact start ▸ leads.isDirectory
  · obtain ⟨_, _, followed⟩ := bind_eq_ok.mp located
    exact isDirectory_of_front followed leads.isDirectory inside

/-- A path that leads somewhere is one that a system can take. -/
theorem Leads.checked (leads : disk.Leads path location) (some : path.text ≠ "") :
    checkPath path = .ok () := by
  rcases leads.located with ⟨empty, _⟩ | ⟨_, located⟩
  · exact absurd empty some
  · exact checkPath_of_locate located

/-- A name in a directory has a path that can be followed, if the path is short enough. -/
theorem Leads.checkPath_child (leads : disk.Leads directory location)
    (single : Path.IsSingle name) (noNull : '\x00' ∉ name.toList)
    (fits : (directory.child name).text.utf8ByteSize < pathLimit) :
    checkPath (directory.child name) = .ok () := by
  refine checkPath_eq_ok.mpr ⟨?_, Path.text_child_ne_empty directory single, fits⟩
  rcases Path.text_child directory single with ⟨_, text⟩ | ⟨named, above, text, spelled⟩
  · rwa [text]
  · have noNullAbove := (checkPath_eq_ok.mp (leads.checked named)).1
    rw [text, List.mem_append, List.mem_cons]
    rintro (inside | slash | last)
    · rcases spelled with same | slashed
      · exact noNullAbove (same ▸ inside)
      · exact noNullAbove (slashed ▸ List.mem_append_left _ inside)
    · cases slash
    · exact noNull last

/-- The names on a path that leads somewhere are not too long. -/
theorem Leads.short (leads : disk.Leads path location) {piece : List Char}
    (member : piece ∈ path.names) (notParent : piece ≠ ['.', '.']) :
    (String.ofList piece).utf8ByteSize ≤ nameLimit := by
  obtain ⟨inside, notBlank⟩ := List.mem_filter.mp member
  rcases leads.located with ⟨empty, _⟩ | ⟨_, located⟩
  · unfold Path.names at member
    rw [empty] at member
    exact absurd member List.not_mem_nil
  · obtain ⟨_, _, followed⟩ := bind_eq_ok.mp located
    exact short_of_followed followed inside (by simpa using notBlank) notParent

/-- What stands at the end of a path that leads somewhere is a directory. -/
theorem Leads.kindAt (leads : disk.Leads path location) (some : path.text ≠ "") :
    disk.kindAt path = .ok .directory := by
  rcases leads.located with ⟨empty, _⟩ | ⟨_, located⟩
  · exact absurd empty some
  · exact kindAt_eq_directory_iff.mpr ⟨location, located, leads.isDirectory⟩

/-- A path that starts another one can be taken if that one can. -/
theorem checkPath_of_prefix {whole : Path} (start : path.text.toList <+: whole.text.toList)
    (some : path.text ≠ "") (checked : checkPath whole = .ok ()) : checkPath path = .ok () := by
  obtain ⟨noNull, -, fits⟩ := checkPath_eq_ok.mp checked
  exact checkPath_eq_ok.mpr ⟨fun null => noNull (start.subset null), some,
    Nat.lt_of_le_of_lt (Path.utf8ByteSize_le_of_prefix start) fits⟩

/-- The parent of a path that leads to something under its last name leads to a directory. -/
theorem leads_of_parent? {parent : Path} (located : disk.locate path = .ok location)
    (above : path.parent? = some parent) (last : path.fileName? = some name) :
    disk.Leads parent (disk.destination parent) := by
  obtain ⟨names, start⟩ := Path.names_of_fileName? above last
  obtain ⟨_, checked, followed⟩ := bind_eq_ok.mp located
  apply leads_of_waypoints
  · intro named
    exact checkPath_of_prefix (Path.text_prefix_of_parent? above) named checked
  · intro piece member notParent
    have inside : piece ∈ path.names := by simp [names, member]
    obtain ⟨inPath, notBlank⟩ := List.mem_filter.mp inside
    exact short_of_followed followed inPath (by simpa using notBlank) notParent
  · rintro other ⟨front, inside, rfl⟩
    rw [start_eq_of_isAbsolute start]
    have within : front <+: path.names := inside.trans ⟨[name.toList], names.symm⟩
    refine isDirectory_of_front_ne followed within fun whole => ?_
    have lengths := inside.length_le
    rw [whole] at lengths
    change path.names.length ≤ _ at lengths
    rw [names, List.length_append, List.length_singleton] at lengths
    omega

/-- Whether everything below the root lies in a directory. -/
def IsTree (disk : Disk) : Prop :=
  ∀ location name, (disk.node? (location ++ [name])).isSome → disk.isDirectory location = true

/-- Whatever something lies below is a directory. -/
theorem IsTree.isDirectory_of_isSome (tree : disk.IsTree) {below : Location} (some : below ≠ [])
    (there : (disk.node? (location ++ below)).isSome) : disk.isDirectory location = true := by
  induction below using List.reverseRecOn with
  | nil => exact absurd rfl some
  | append_singleton front last inductionHypothesis =>
    rw [← List.append_assoc] at there
    have above := tree _ _ there
    by_cases empty : front = []
    · rwa [empty, List.append_nil] at above
    · exact inductionHypothesis empty (isSome_of_isDirectory above)

/-- Names that are not `..` lead further down. -/
theorem foldl_stepTo_of_down
    (down : ∀ piece ∈ pieces, Path.isBlankPiece piece = false ∧ piece ≠ ['.', '.']) :
    pieces.foldl stepTo start = start ++ pieces.map String.ofList := by
  induction pieces generalizing start with
  | nil => simp
  | cons piece rest inductionHypothesis =>
    obtain ⟨⟨notBlank, notParent⟩, downRest⟩ := List.forall_mem_cons.mp down
    rw [List.foldl_cons, inductionHypothesis downRest, stepTo, if_neg (by simp [notBlank]),
      if_neg notParent, List.map_cons, List.append_assoc, List.singleton_append]

/-- In a tree, a path without `..` leads to a directory if something lies below its place. -/
theorem IsTree.leads (tree : disk.IsTree) (checked : path.text ≠ "" → checkPath path = .ok ())
    (short : ∀ piece ∈ path.names, (String.ofList piece).utf8ByteSize ≤ nameLimit)
    (noParent : ['.', '.'] ∉ path.names)
    (there : (disk.node? (disk.destination path ++ [name])).isSome) :
    disk.Leads path (disk.destination path) := by
  have down : ∀ piece ∈ path.names, Path.isBlankPiece piece = false ∧ piece ≠ ['.', '.'] := by
    intro piece member
    refine ⟨by simpa using (List.mem_filter.mp member).2, ?_⟩
    rintro rfl
    exact noParent member
  refine leads_of_waypoints checked (fun piece member _ => short piece member) ?_
  rintro _ ⟨front, ⟨back, split⟩, rfl⟩
  have downFront : ∀ piece ∈ front, Path.isBlankPiece piece = false ∧ piece ≠ ['.', '.'] :=
    fun piece member => down piece (split ▸ List.mem_append_left back member)
  have whole : disk.destination path ++ [name] =
      front.foldl stepTo (disk.start path) ++ (back.map String.ofList ++ [name]) := by
    unfold destination
    rw [foldl_stepTo_of_down down, foldl_stepTo_of_down downFront, ← split]
    simp
  rw [whole] at there
  exact tree.isDirectory_of_isSome (by simp) there

end QuizFeed.Files.Disk
