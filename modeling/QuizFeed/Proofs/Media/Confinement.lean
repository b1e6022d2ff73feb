import QuizFeed.Proofs.Files.Following
import QuizFeed.Proofs.Media.Thumbnail

/-!
# Local copies stay in the image directory

Uids come from outside, so the place of a local copy is decided by a text that may be anything. It
is always one name in the image directory, or there is none (`localImage?_eq_none_iff`), and making
the copy adds that file and directories on the way to it only. What is there already is kept as far
as the path of the copy can be followed (`localize_keeps`, `localize_confined`): a way that leads
through a missing directory and back is opened by making that directory, and what then comes to
light at its end is replaced (`localize_replaces_behind_missing`).
-/

namespace QuizFeed

open Files

/-- A plain name is not empty, leads nowhere else, and has no slash of either kind. -/
theorem isPlainName_iff {name : String} : Path.isPlainName name = true ↔
    name ∉ ["", ".", ".."] ∧ '/' ∉ name.toList ∧ '\\' ∉ name.toList := by
  have blank : Path.isBlankPiece name.toList = true ↔ name = "" ∨ name = "." := by
    rw [Path.isBlankPiece, Bool.or_eq_true, beq_iff_eq, beq_iff_eq, ← String.toList_inj,
      ← String.toList_inj]
    rfl
  have separators : (name.toList.any fun character => character == '/' || character == '\\') =
      true ↔ '/' ∈ name.toList ∨ '\\' ∈ name.toList := by
    simp only [List.any_eq_true, Bool.or_eq_true, beq_iff_eq]
    constructor
    · rintro ⟨character, member, rfl | rfl⟩
      · exact .inl member
      · exact .inr member
    · rintro (slash | backslash)
      · exact ⟨'/', slash, .inl rfl⟩
      · exact ⟨'\\', backslash, .inr rfl⟩
  unfold Path.isPlainName
  rw [Bool.and_eq_true, Bool.and_eq_true, Bool.not_eq_true', Bool.not_eq_true',
    ← Bool.not_eq_true, ← Bool.not_eq_true, blank, separators]
  simp
  tauto

/-- An entry has no local copy exactly if it has no image or its uid is not a plain name. -/
theorem localImage?_eq_none_iff {entry : Entry} {directory : Path} :
    entry.localImage? directory = none ↔ entry.image = none ∨ entry.uid ∈ ["", ".", ".."] ∨
      '/' ∈ entry.uid.toList ∨ '\\' ∈ entry.uid.toList := by
  unfold Entry.localImage?
  by_cases plain : Path.isPlainName entry.uid = true
  · obtain ⟨own, noSlash, noBackslash⟩ := isPlainName_iff.mp plain
    rw [if_pos plain, Option.map_eq_none_iff]
    simp only [own, noSlash, noBackslash, or_false]
  · rw [if_neg plain]
    rw [isPlainName_iff] at plain
    simp only [true_iff]
    tauto

namespace Media

variable {ε : Type} (outside : Outside ε) {feed : Feed} {code : String} {settings : MediaSettings}
  {target : Path}

/-- When a download takes the place of something, the names on the way to it are such that the path
can be followed. -/
theorem followable_of_replaced (code image : String) (directory : Path) {name : String}
    (single : Path.IsSingle name) (world : World ε) {node : Node}
    (there : world.disk.node? (world.disk.destination directory ++ [name]) = some node)
    (replaced : ((downloadThumbnail code image (directory.child name)).run outside
      world).2.disk.node? (world.disk.destination directory ++ [name]) ≠ some node) :
    '\x00' ∉ (directory.child name).text.toList ∧ name.utf8ByteSize ≤ Disk.nameLimit ∧
      ∀ piece ∈ directory.names, piece ≠ ['.', '.'] →
        (String.ofList piece).utf8ByteSize ≤ Disk.nameLimit := by
  rcases disk_downloadThumbnail outside code image directory single world with
    same | ⟨parent, content, start, above, disk, same⟩
  · rw [same] at replaced
    exact absurd there replaced
  obtain ⟨names, _⟩ := Path.names_parent?_child directory single above
  obtain ⟨prepared, grows, ⟨_, alike⟩ | ⟨_, location, leads, _, checked, short⟩⟩ :=
    Program.writeFile_cases outside content parent single start
  · rw [disk] at grows
    rw [same, alike.node?_eq] at replaced
    exact absurd (grows.node?_of_some there) replaced
  refine ⟨?_, short, fun piece member notParent => ?_⟩
  · have noNull := (Disk.checkPath_eq_ok.mp checked).1
    rw [Path.mem_text_iff _ (by decide) (by decide), Path.names_child _ single, names] at noNull
    rwa [Path.mem_text_iff _ (by decide) (by decide), Path.names_child _ single]
  · rw [← names] at member
    obtain ⟨inside, notBlank⟩ := List.mem_filter.mp member
    rcases leads.located with ⟨empty, _⟩ | ⟨_, located⟩
    · unfold Path.names at member
      rw [empty] at member
      cases member
    · obtain ⟨_, _, followed⟩ := bind_eq_ok.mp located
      exact Disk.short_of_followed followed inside (by simpa using notBlank) notParent

/-- Making a local copy keeps what is at its place, if the path is not too long and the image
directory is there, or has no `..` on the way to it. -/
theorem localize_keeps (found : target? feed code settings = some target) {world : World ε}
    {node : Node} (there : world.disk.node? (world.disk.destination target) = some node)
    (fits : target.text.utf8ByteSize < Disk.pathLimit)
    (reached : (∃ location, world.disk.Leads settings.images location) ∨
      world.disk.IsTree ∧ ['.', '.'] ∉ settings.images.names) :
    ((localize feed code settings).run outside world).2.disk.node?
      (world.disk.destination target) = some node := by
  obtain ⟨image, run⟩ := run_localize_of_some outside found world
  obtain ⟨name, single, rfl⟩ := exists_of_target? found
  cases inspected : world.disk.kindAt (settings.images.child name) with
  | ok kind =>
    rw [run, inspected]
    exact there
  | error cause =>
    rw [run, inspected]
    rw [Disk.destination_child world.disk settings.images single] at there ⊢
    by_contra replaced
    obtain ⟨noNull, short, shortNames⟩ :=
      followable_of_replaced outside code image settings.images single world there replaced
    have checked : Disk.checkPath (settings.images.child name) = .ok () :=
      Disk.checkPath_eq_ok.mpr ⟨noNull, Path.text_child_ne_empty _ single, fits⟩
    obtain ⟨location, leads⟩ : ∃ location, world.disk.Leads settings.images location := by
      refine reached.elim id fun ⟨tree, noParent⟩ => ⟨_, tree.leads (fun named => ?_)
        (fun piece member => shortNames piece member ?_) noParent (by rw [there]; rfl)⟩
      · exact Disk.checkPath_of_prefix (Path.text_prefix_child settings.images single) named checked
      · rintro rfl
        exact noParent member
    rw [← leads.eq_destination] at there
    have located := leads.locate_child single checked short
    rw [if_pos (by rw [there]; rfl)] at located
    unfold Disk.kindAt at inspected
    rw [located, ok_bind, there] at inspected
    cases inspected

/-- The local copy of an image is one file in the image directory, whatever the uid and the image
are. Making it changes nothing but this file and directories that are missing on the way, and
nothing at all where its path leads to something. What lies at its place is kept even where the
path cannot be followed, unless the path is too long, or leads back by `..` to a directory that it
does not reach. -/
theorem localize_confined :
    (∀ (entry : Entry) (directory : Path),
      (entry.localImage? directory = none ↔ entry.image = none ∨
        entry.uid ∈ ["", ".", ".."] ∨ '/' ∈ entry.uid.toList ∨ '\\' ∈ entry.uid.toList) ∧
      ∀ target, entry.localImage? directory = some target →
        ∃ extension, '/' ∉ extension.toList ∧ '.' ∉ extension.toList ∧
          target = directory.child (entry.uid ++ "." ++ extension) ∧
          Path.IsSingle (entry.uid ++ "." ++ extension)) ∧
    ∀ (feed : Feed) (code : String) (settings : MediaSettings) (world : World ε),
      let result := (localize feed code settings).run outside world
      (target? feed code settings = none → result = (.ok none, world)) ∧
      ∀ target, target? feed code settings = some target →
        let place := world.disk.destination target
        (∃ name, place = world.disk.destination settings.images ++ [name]) ∧
        (∀ location, result.2.disk.node? location = world.disk.node? location ∨
          (location = place ∧ ∃ content, result.2.disk.node? location = some (.file content)) ∨
          (world.disk.Waypoint settings.images location ∧ world.disk.node? location = none ∧
            result.2.disk.node? location = some .directory)) ∧
        (∀ kind, world.disk.kindAt target = .ok kind → result = (.ok (some target), world)) ∧
        ∀ node, world.disk.node? place = some node →
          result.2.disk.node? place = some node ∨
          Disk.pathLimit ≤ target.text.utf8ByteSize ∨
          (world.disk.IsTree → ['.', '.'] ∈ settings.images.names) ∧
            ∀ location, ¬ world.disk.Leads settings.images location := by
  refine ⟨fun entry directory => ⟨localImage?_eq_none_iff, fun target => exists_of_localImage?⟩,
    fun feed code settings world => ⟨fun absent => run_localize_of_none outside absent world,
      fun target found => ⟨?_, fun location => ?_,
        fun kind there => run_localize_of_there outside found there, fun node there => ?_⟩⟩⟩
  · obtain ⟨name, single, rfl⟩ := exists_of_target? found
    exact ⟨name, Disk.destination_child world.disk settings.images single⟩
  · obtain ⟨prepared, grows, alike | ⟨content, holds⟩⟩ := localize_writes outside found world
    · rw [alike.node?_eq]
      exact (grows.nodes location).imp_right .inr
    · rw [holds.node?_eq]
      split
      case isTrue here => exact .inr (.inl ⟨here, content, rfl⟩)
      case isFalse => exact (grows.nodes location).imp_right .inr
  · by_cases fits : target.text.utf8ByteSize < Disk.pathLimit
    · by_cases reached : (∃ location, world.disk.Leads settings.images location) ∨
          world.disk.IsTree ∧ ['.', '.'] ∉ settings.images.names
      · exact .inl (localize_keeps outside found there fits reached)
      · rw [not_or, not_exists, not_and, not_not] at reached
        exact .inr (.inr ⟨reached.2, reached.1⟩)
    · exact .inr (.inl (Nat.le_of_not_lt fits))

/-- A network that answers every request with the same bytes. -/
def constantNetwork (content : ByteArray) : Outside Unit where
  now state := (.epoch, state)
  fetch _ state := (.ok content, state)

/-- A feed with one image, under a code that is not its uid. -/
def oneImage (code uid : String) : Feed :=
  Feed.empty.put code ⟨uid, "", .published, some "cdn://h/i.png"⟩

/-- A copy that is there is kept as it is, for a uid of dots. -/
theorem localize_confined_kept :
    let settings : MediaSettings := { images := ⟨"img"⟩ }
    let target : Path := ⟨"img/....png"⟩
    let world : World Unit :=
      ⟨⟨[(["img"], .directory), (["img", "....png"], .file "old".toUTF8)], [], []⟩, [], [], [], ()⟩
    target? (oneImage "c" "...") "c" settings = some target ∧
      world.disk.kindAt target = .ok .file ∧
      (localize (oneImage "c" "...") "c" settings).run (constantNetwork "new".toUTF8) world =
        (.ok (some target), world) := by
  intro settings target world
  have found : target? (oneImage "c" "...") "c" settings = some target := by decide
  have there : world.disk.kindAt target = .ok .file := eq_ok_of_toOption (by decide)
  have confined := (localize_confined (constantNetwork "new".toUTF8)).2 (oneImage "c" "...") "c"
    settings world
  exact ⟨found, there, (confined.2 target found).2.2.1 .file there⟩

/-- Where the way to the image directory leads through a missing directory and back, what is at the
place of a copy is replaced. -/
theorem localize_replaces_behind_missing :
    let settings : MediaSettings := { images := ⟨"a/../b"⟩ }
    let target : Path := ⟨"a/../b/u.png"⟩
    let before : Disk := ⟨[(["b"], .directory), (["b", "u.png"], .file "old".toUTF8)], [], []⟩
    let result := (localize (oneImage "u" "u") "u" settings).run
      (constantNetwork "new".toUTF8) ⟨before, [], [], [], ()⟩
    before.IsTree ∧ target? (oneImage "u" "u") "u" settings = some target ∧
      result.1 = .ok (some target) ∧
      before.node? (before.destination target) = some (.file "old".toUTF8) ∧
      result.2.disk.node? (before.destination target) = some (.file "new".toUTF8) := by
  intro settings target before result
  have place : before.destination ⟨"b/u.png"⟩ = before.destination target ∧
      result.2.disk.destination target = before.destination target := by decide +kernel
  have old : before.contentAt ⟨"b/u.png"⟩ = .ok "old".toUTF8 :=
    eq_ok_of_toOption (by decide)
  have new : result.2.disk.contentAt target = .ok "new".toUTF8 :=
    eq_ok_of_toOption (by decide +kernel)
  refine ⟨fun location name there => ?_, by decide +kernel, eq_ok_of_toOption (by decide +kernel),
    place.1 ▸ Disk.node?_of_contentAt old, place.2 ▸ Disk.node?_of_contentAt new⟩
  have member : location ++ [name] = [] ++ ["b"] ∨ location ++ [name] = ["b"] ++ ["u.png"] := by
    simpa [before] using Disk.mem_nodes_of_node? (by simp) there
  rcases member with top | below
  · obtain ⟨rfl, _⟩ := List.append_inj' top rfl
    rfl
  · obtain ⟨rfl, _⟩ := List.append_inj' below rfl
    rfl

end Media
end QuizFeed
