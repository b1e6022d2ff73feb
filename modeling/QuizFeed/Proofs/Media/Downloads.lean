import Mathlib.Data.List.Chain
import QuizFeed.Proofs.Media.Outcomes

/-!
# Local copies over many calls

A session is a list of calls over one image directory that nothing else writes to. What one call
keeps true of the disk is true all along a session (`Session.holds`). Two such facts carry the
results: everything in the image directory has an origin, which for a file is a download for the
uid that its name starts with (`Origin`, `Explained.localizes`), and a copy that its path leads to
stays there (`contentAt_localizes`).

A path may lead through the place of a copy and back by `..`. Then a directory is made there, which
later calls take for the copy (`localize_takes_directory`). A path that is too long to be followed
never leads to the copy, so every call for it downloads it again (`localize_repeats`).
-/

namespace QuizFeed

open Files

/-- The text before the last dot is decided by a text. -/
theorem eq_of_extended {name other extension extra : String} (noDot : '.' ∉ extension.toList)
    (noOther : '.' ∉ extra.toList) (same : name ++ "." ++ extension = other ++ "." ++ extra) :
    name = other := by
  have text (first last : String) : (first ++ "." ++ last).toList =
      first.toList ++ '.' :: last.toList := by
    simp [String.toList_append]
  have lists := congrArg String.toList same
  rw [text, text] at lists
  rcases List.append_eq_append_iff.mp lists with ⟨more, long, rest⟩ | ⟨more, long, rest⟩
  · cases more with
    | nil => exact String.toList_inj.mp (by simpa using long.symm)
    | cons first behind =>
      rw [(List.cons.inj rest).2] at noDot
      simp at noDot
  · cases more with
    | nil => exact String.toList_inj.mp (by simpa using long)
    | cons first behind =>
      rw [(List.cons.inj rest).2] at noOther
      simp at noOther

namespace Media

/-- A call for a local copy, and the world in which it starts. -/
structure Call (ε : Type) where
  feed : Feed
  code : String
  icons : Path
  world : World ε

variable {ε : Type} (outside : Outside ε) (images : Path)

namespace Call

variable (call : Call ε)

/-- The settings of a call. -/
def settings : MediaSettings :=
  ⟨images, call.icons⟩

/-- The entry that a call is about. -/
def subject? : Option Entry :=
  call.feed.get? call.code

/-- What a call leads to. -/
def run : Except ThumbnailFailure (Option Path) × World ε :=
  (localize call.feed call.code (call.settings images)).run outside call.world

/-- Where the local copy that a call asks for belongs. -/
def target? : Option Path :=
  Media.target? call.feed call.code (call.settings images)

/-- The downloads of a call. -/
def events : List Event :=
  (localize call.feed call.code (call.settings images)).events outside call.world

/-- Whether a call downloads the image of an entry with some uid, and gets some bytes. -/
def Downloads (uid : String) (content : ByteArray) : Prop :=
  ∃ entry image, call.subject? = some entry ∧ entry.uid = uid ∧ entry.image = some image ∧
    call.events outside images = [.request image (.ok content)]

/-- A call leads to one of the outcomes of making a local copy. -/
theorem localizes : Localizes images call.subject? call.world.disk (call.events outside images)
    (call.run outside images).1 (call.run outside images).2.disk :=
  localize_localizes outside call.feed call.code (call.settings images) call.world

end Call

/-- Whether a disk keeps all directories of another one, and what an image directory holds. -/
structure Spares (images : Path) (before after : Disk) : Prop where
  keeps : before.KeepsDirectories after
  nodes : ∀ name, after.node? (before.destination images ++ [name]) =
    before.node? (before.destination images ++ [name])

/-- A disk spares what it holds itself. -/
theorem Spares.refl (images : Path) (disk : Disk) : Spares images disk disk :=
  ⟨⟨rfl, fun _ isDirectory => isDirectory⟩, fun _ => rfl⟩

/-- Whether calls come one after the other, and nothing else writes to the image directory. -/
def Session (calls : List (Call ε)) : Prop :=
  calls.IsChain fun call next => Spares images (call.run outside images).2.disk next.world.disk

variable {outside images}

/-- What holds at the start of a session, and is kept by every call and by what others do, holds
when a later call starts. -/
theorem Session.holds (holds : Disk → Prop) {past later : List (Call ε)} {next : Call ε}
    (session : Session outside images (past ++ next :: later))
    (begun : ∀ first ∈ (past ++ [next]).head?, holds first.world.disk)
    (step : ∀ call ∈ past, holds call.world.disk → holds (call.run outside images).2.disk)
    (spared : ∀ before after, Spares images before after → holds before → holds after) :
    holds next.world.disk := by
  induction past with
  | nil => exact begun next rfl
  | cons call rest inductionHypothesis =>
    obtain ⟨stepFirst, stepRest⟩ := List.forall_mem_cons.mp step
    have left := stepFirst (begun call rfl)
    obtain ⟨spares, sessionRest⟩ := List.isChain_cons.mp session
    refine inductionHypothesis sessionRest (fun first isFirst => ?_) stepRest
    refine spared _ _ (spares first ?_) left
    cases rest <;> exact isFirst

/-- Where something in the image directory comes from: it was there at the start, it is a directory
that the path of the image directory leads through, or one of some calls downloaded it for the uid
that its name starts with. -/
inductive Origin (outside : Outside ε) (images : Path) (start : Disk) (calls : List (Call ε))
    (name : String) : Node → Prop where
  | kept {node} (there : start.node? (start.destination images ++ [name]) = some node) :
      Origin outside images start calls name node
  | way (waypoint : start.Waypoint images (start.destination images ++ [name])) :
      Origin outside images start calls name .directory
  | download {call uid extension content} (member : call ∈ calls)
      (downloads : call.Downloads outside images uid content) (noDot : '.' ∉ extension.toList)
      (named : name = uid ++ "." ++ extension) :
      Origin outside images start calls name (.file content)

/-- Whether everything in the image directory of a disk has an origin. -/
structure Explained (outside : Outside ε) (images : Path) (start : Disk) (calls : List (Call ε))
    (disk : Disk) : Prop where
  working : disk.working = start.working
  origin : ∀ name node, disk.node? (start.destination images ++ [name]) = some node →
    Origin outside images start calls name node

variable {start before prepared after : Disk} {calls : List (Call ε)}

/-- At the start everything is explained by having been there. -/
theorem explained_start (disk : Disk) (calls : List (Call ε)) :
    Explained outside images disk calls disk :=
  ⟨rfl, fun _ _ there => .kept there⟩

/-- What is explained remains so while the image directory is spared. -/
theorem Explained.spared (explained : Explained outside images start calls before)
    (spares : Spares images before after) : Explained outside images start calls after := by
  refine ⟨spares.keeps.working.trans explained.working, fun name node there => ?_⟩
  have same := spares.nodes name
  rw [Disk.destination_of_working explained.working] at same
  exact explained.origin name node (same ▸ there)

/-- What is explained remains so while directories are made on the way to the images. -/
theorem Explained.grows (explained : Explained outside images start calls before)
    (grows : before.Grows (before.Waypoint images) after) :
    Explained outside images start calls after := by
  refine ⟨grows.working.trans explained.working, fun name node there => ?_⟩
  rcases grows.nodes (start.destination images ++ [name]) with same | ⟨waypoint, -, made⟩
  · exact explained.origin name node (same ▸ there)
  · cases made.symm.trans there
    exact .way ((Disk.waypoint_of_working explained.working).mp waypoint)

/-- A call leaves everything in the image directory with an origin. -/
theorem Explained.localizes {subject? : Option Entry} {events : List Event}
    {result : Except ThumbnailFailure (Option Path)}
    (explained : Explained outside images start calls before)
    (localizes : Localizes images subject? before events result after)
    (ours : ∀ entry image content, subject? = some entry → entry.image = some image →
      events = [.request image (.ok content)] →
      ∃ call ∈ calls, call.Downloads outside images entry.uid content) :
    Explained outside images start calls after := by
  cases localizes with
  | absent | there | failed => exact explained
  | unwritten lacks grows alike =>
    have explained := explained.grows grows
    exact ⟨alike.working.trans explained.working, fun name node there =>
      explained.origin name node (alike.node?_eq _ ▸ there)⟩
  | @stored entry image target content written prepared _ lacks grows same holds =>
    obtain ⟨call, member, downloads⟩ := ours entry image content lacks.isEntry lacks.isImage rfl
    obtain ⟨extension, -, noDot, rfl, single⟩ := exists_of_localImage? lacks.isTarget
    rw [Disk.destination_child _ _ single, Disk.destination_of_working explained.working] at holds
    have explained := explained.grows grows
    refine ⟨holds.working.trans explained.working, fun name node there => ?_⟩
    rw [holds.node?_eq] at there
    split at there
    case isTrue here =>
      cases there
      exact .download member downloads noDot (List.cons.inj (List.append_cancel_left here)).1
    case isFalse => exact explained.origin name node there

/-- When a call of a session starts, everything in the image directory has an origin. -/
theorem Session.explained {first call : Call ε} {past later : List (Call ε)}
    (session : Session outside images (past ++ call :: later))
    (isFirst : first ∈ (past ++ [call]).head?) (inside : past ⊆ calls) :
    Explained outside images first.world.disk calls call.world.disk := by
  refine session.holds _ (fun begun isBegun => ?_) (fun other member explained => ?_)
    fun before after spares explained => explained.spared spares
  · cases isFirst.symm.trans isBegun
    exact explained_start _ _
  · exact explained.localizes (other.localizes outside images)
      fun entry image content isEntry isImage events =>
        ⟨other, inside member, entry, image, isEntry, rfl, isImage, events⟩

/-- What the path that a call is answered with leads to: what was downloaded for the uid of its
entry, or a directory on the way of the image directory, or what was there at the start. -/
theorem Explained.answers {subject? : Option Entry} {events : List Event} {path : Path}
    (explained : Explained outside images start calls before)
    (localizes : Localizes images subject? before events (.ok (some path)) after)
    (ours : ∀ entry image content, subject? = some entry → entry.image = some image →
      events = [.request image (.ok content)] →
      ∃ call ∈ calls, call.Downloads outside images entry.uid content) :
    ∃ entry, subject? = some entry ∧
      ((∃ call ∈ calls, ∃ content, call.Downloads outside images entry.uid content ∧
          after.contentAt path = .ok content) ∨
        after.kindAt path = .ok .directory ∧ start.Waypoint images (start.destination path) ∨
        ∃ node, start.node? (start.destination path) = some node ∧
          after.node? (start.destination path) = some node) := by
  cases localizes with
  | @there entry _ kind isEntry isTarget found =>
    refine ⟨entry, isEntry, ?_⟩
    obtain ⟨extension, -, noDot, rfl, single⟩ := exists_of_localImage? isTarget
    obtain ⟨location, node, located, present, isKind⟩ := Disk.kindAt_eq_ok.mp found
    have place := Disk.locate_eq_destination located
    rw [Disk.destination_of_working explained.working] at place
    rw [place] at present
    rw [Disk.destination_child _ _ single] at present place ⊢
    cases explained.origin _ node present with
    | kept there => exact .inr (.inr ⟨node, there, present⟩)
    | way waypoint => exact .inr (.inl ⟨found.trans (congrArg _ isKind.symm), waypoint⟩)
    | @download call uid other content member downloads noOther named =>
      have same : uid = entry.uid := (eq_of_extended noDot noOther named).symm
      exact .inl ⟨call, member, content, same ▸ downloads,
        Disk.contentAt_eq_ok.mpr ⟨location, located, place ▸ present⟩⟩
  | @stored entry image target content _ _ _ lacks grows same holds found =>
    obtain ⟨call, member, downloads⟩ := ours entry image content lacks.isEntry lacks.isImage rfl
    exact ⟨entry, lacks.isEntry, .inl ⟨call, member, content, downloads, found⟩⟩

/-- A copy that its path leads to is still there after a call. -/
theorem contentAt_localizes {subject? : Option Entry} {events : List Event}
    {result : Except ThumbnailFailure (Option Path)} {name : String} {content : ByteArray}
    (single : Path.IsSingle name)
    (localizes : Localizes images subject? before events result after)
    (found : before.contentAt (images.child name) = .ok content) :
    after.contentAt (images.child name) = .ok content := by
  cases localizes with
  | absent | there | failed => exact found
  | unwritten lacks grows alike =>
    have writes : before.Writes _ [] after := ⟨_, grows, .inl alike⟩
    refine Disk.contentAt_keeps writes.keepsDirectories found ?_
    rw [alike.node?_eq, grows.node?_of_some (Disk.node?_of_contentAt found)]
  | @stored entry image target _ _ _ _ lacks grows same holds =>
    have writes : before.Writes _ (before.destination target) after :=
      ⟨_, grows, .inr ⟨_, holds⟩⟩
    refine writes.contentAt found fun here => ?_
    obtain ⟨extension, -, -, rfl, singleOther⟩ := exists_of_localImage? lacks.isTarget
    obtain ⟨cause, missing⟩ := lacks.missing
    rw [Disk.destination_child _ _ single, Disk.destination_child _ _ singleOther] at here
    rw [← (List.cons.inj (List.append_cancel_left here)).1, Disk.kindAt_of_contentAt found]
      at missing
    cases missing

/-- A copy that its path leads to is still there after what others do. -/
theorem Spares.contentAt {name : String} {content : ByteArray} (single : Path.IsSingle name)
    (spares : Spares images before after)
    (found : before.contentAt (images.child name) = .ok content) :
    after.contentAt (images.child name) = .ok content := by
  have node := Disk.node?_of_contentAt found
  refine Disk.contentAt_keeps spares.keeps found ?_
  rw [Disk.destination_child _ _ single] at node ⊢
  rw [spares.nodes, node]

/-- A copy that its path leads to after a call is there when a later call starts. -/
theorem Session.contentAt {call next : Call ε} {past between later : List (Call ε)}
    {name : String} {content : ByteArray}
    (session : Session outside images (past ++ call :: (between ++ next :: later)))
    (single : Path.IsSingle name)
    (found : (call.run outside images).2.disk.contentAt (images.child name) = .ok content) :
    next.world.disk.contentAt (images.child name) = .ok content := by
  obtain ⟨spares, behind⟩ := List.isChain_cons.mp session.right_of_append
  refine Session.holds (fun disk => disk.contentAt (images.child name) = .ok content) behind
    (fun first isFirst => ?_)
    (fun other _ held => contentAt_localizes single (other.localizes outside images) held)
    fun before after others held => others.contentAt single held
  refine (spares first ?_).contentAt single found
  cases between <;> exact isFirst

/-- Calls that are answered with the same path are about the same uid. -/
theorem Call.uid_eq {call other : Call ε} {entry another : Entry} {path again : Path}
    (isEntry : call.subject? = some entry) (isAnother : other.subject? = some another)
    (answered : (call.run outside images).1 = .ok (some path))
    (answeredAgain : (other.run outside images).1 = .ok (some again))
    (same : path.components = again.components) : entry.uid = another.uid := by
  have localizes := call.localizes outside images
  have localizesAgain := other.localizes outside images
  rw [answered] at localizes
  rw [answeredAgain] at localizesAgain
  obtain ⟨_, extension, found, noDot, last⟩ := localizes.named
  obtain ⟨_, extra, foundAgain, noOther, lastAgain⟩ := localizesAgain.named
  cases isEntry.symm.trans found
  cases isAnother.symm.trans foundAgain
  rw [same, lastAgain] at last
  exact eq_of_extended noDot noOther (Path.Component.name.inj (Option.some.inj last)).symm

/-- After a copy was stored under a path that is not too long, a call for it is answered with it and
does nothing. -/
theorem Session.reuses {call next : Call ε} {past between later : List (Call ε)} {uid : String}
    {content : ByteArray} {path target : Path}
    (session : Session outside images (past ++ call :: (between ++ next :: later)))
    (downloads : call.Downloads outside images uid content)
    (answered : (call.run outside images).1 = .ok (some path))
    (isTarget : call.target? images = some target) (isAgain : next.target? images = some target)
    (fits : target.text.utf8ByteSize < Disk.pathLimit) :
    path.components = target.components ∧ next.world.disk.contentAt target = .ok content ∧
      next.run outside images = (.ok (some target), next.world) ∧
      next.events outside images = [] := by
  have localizes := call.localizes outside images
  obtain ⟨entry, image, isEntry, -, isImage, events⟩ := downloads
  rw [answered, events] at localizes
  obtain ⟨same, found⟩ := localizes.contentAt.2 target isTarget
  obtain ⟨name, single, rfl⟩ := exists_of_target? isTarget
  have kept := session.contentAt single (found fits)
  have there := Disk.kindAt_of_contentAt kept
  exact ⟨same, kept, run_localize_of_there outside isAgain there,
    (next.localizes outside images).events_of_there isAgain there⟩

/-- Images are downloaded once and never mixed up. A call downloads no more than the image of its
entry, and changes no file unless it is answered with a path. That path leads to what was downloaded
for the uid of the entry, unless it leads to a directory on the way of the image directory, or to
what was there at the start. No two uids get the same path. Once the copy is stored, every later
call for it is answered with its path and does nothing, unless the path is too long to be followed:
then every call downloads the image. -/
theorem downloads_once {calls : List (Call ε)} (session : Session outside images calls) :
    (∀ call ∈ calls,
      (call.events outside images = [] ∨ ∃ entry image reply, call.subject? = some entry ∧
        entry.image = some image ∧ call.events outside images = [.request image reply]) ∧
      ((∀ path, (call.run outside images).1 ≠ .ok (some path)) → ∀ location,
        call.world.disk.KeptOrMade (call.run outside images).2.disk images location)) ∧
    (∀ first ∈ calls.head?, ∀ past call later, calls = past ++ call :: later → ∀ path,
      (call.run outside images).1 = .ok (some path) →
      let start := first.world.disk
      let after := (call.run outside images).2.disk
      ∃ entry, call.subject? = some entry ∧
        ((∃ other ∈ past ++ [call], ∃ content, other.Downloads outside images entry.uid content ∧
            after.contentAt path = .ok content) ∨
          after.kindAt path = .ok .directory ∧ start.Waypoint images (start.destination path) ∨
          ∃ node, start.node? (start.destination path) = some node ∧
            after.node? (start.destination path) = some node)) ∧
    (∀ call ∈ calls, ∀ other ∈ calls, ∀ entry another path again, call.subject? = some entry →
      other.subject? = some another → (call.run outside images).1 = .ok (some path) →
      (other.run outside images).1 = .ok (some again) → path.components = again.components →
      entry.uid = another.uid) ∧
    (∀ past call between next later, calls = past ++ call :: (between ++ next :: later) →
      ∀ uid content path target, call.Downloads outside images uid content →
      (call.run outside images).1 = .ok (some path) → call.target? images = some target →
      next.target? images = some target → target.text.utf8ByteSize < Disk.pathLimit →
      path.components = target.components ∧ next.world.disk.contentAt target = .ok content ∧
        next.run outside images = (.ok (some target), next.world) ∧
        next.events outside images = []) ∧
    ∀ call ∈ calls, ∀ target, call.target? images = some target →
      Disk.pathLimit ≤ target.text.utf8ByteSize →
      ∃ image reply, call.events outside images = [.request image reply] := by
  refine ⟨fun call _ => ⟨(call.localizes outside images).events_eq,
      (call.localizes outside images).keptOrMade⟩,
    fun first isFirst past call later split path answered => ?_,
    fun call _ other _ entry another path again isEntry isAnother answered answeredAgain same =>
      Call.uid_eq isEntry isAnother answered answeredAgain same,
    fun past call between next later split uid content path target downloads answered isTarget
      isAgain fits => (split ▸ session).reuses downloads answered isTarget isAgain fits,
    fun call _ target isTarget long => (call.localizes outside images).events_of_long isTarget long⟩
  subst split
  have first? : first ∈ (past ++ [call]).head? := by
    cases past <;> exact isFirst
  have explained := session.explained first? (List.subset_append_left past [call])
  have localizes := call.localizes outside images
  rw [answered] at localizes
  exact explained.answers localizes fun entry image content isEntry isImage events =>
    ⟨call, by simp, entry, image, isEntry, rfl, isImage, events⟩

/-- A feed that gives another image for the same uid uses the copy that is there. -/
theorem downloads_once_reused :
    let outside := constantNetwork "new".toUTF8
    let images : Path := ⟨"img"⟩
    let target : Path := ⟨"img/u.png"⟩
    let changed := Feed.empty.put "c" ⟨"u", "", .published, some "cdn://g/j.png"⟩
    let first : Call Unit := ⟨oneImage "u" "u", "u", ⟨"icons"⟩, ⟨⟨[], [], []⟩, [], [], [], ()⟩⟩
    let second : Call Unit := ⟨changed, "c", ⟨"icons"⟩, (first.run outside images).2⟩
    Session outside images [first, second] ∧ first.Downloads outside images "u" "new".toUTF8 ∧
      (first.run outside images).1 = .ok (some target) ∧
      second.run outside images = (.ok (some target), second.world) ∧
      second.events outside images = [] := by
  intro outside images target changed first second
  have session : Session outside images [first, second] :=
    List.isChain_pair.mpr (.refl images _)
  have once := downloads_once session
  have answered : (first.run outside images).1 = .ok (some target) :=
    eq_ok_of_toOption (by decide +kernel)
  have stored : (first.run outside images).2.disk.contentAt target = .ok "new".toUTF8 :=
    eq_ok_of_toOption (by decide +kernel)
  have downloads : first.Downloads outside images "u" "new".toUTF8 := by
    obtain ⟨entry, isEntry, origin⟩ := once.2.1 first rfl [] first [second] rfl target answered
    have named : entry.uid = "u" := by
      have uid : first.subject?.map Entry.uid = some "u" := by decide
      rw [isEntry] at uid
      exact Option.some.inj uid
    rcases origin with
      ⟨other, member, content, downloads, held⟩ | ⟨isDirectory, -⟩ | ⟨node, there, -⟩
    · obtain rfl := List.mem_singleton.mp member
      cases held.symm.trans stored
      exact named ▸ downloads
    · cases isDirectory.symm.trans (Disk.kindAt_of_contentAt stored)
    · have place : first.world.disk.destination target = ["img", "u.png"] := by decide
      rw [place] at there
      cases there
  have reused := once.2.2.2.1 [] first [] second [] rfl "u" _ target target downloads answered
    (by decide) (by decide) (by decide)
  exact ⟨session, downloads, answered, reused.2.2.1, reused.2.2.2⟩

/-- A directory on the way of the image directory is taken for a copy that could not be stored. -/
theorem localize_takes_directory :
    let outside := constantNetwork "new".toUTF8
    let images : Path := ⟨"t/u.png/.."⟩
    let target : Path := ⟨"t/u.png/../u.png"⟩
    let first : Call Unit := ⟨oneImage "u" "u", "u", ⟨"icons"⟩, ⟨⟨[], [], []⟩, [], [], [], ()⟩⟩
    let second : Call Unit := { first with world := (first.run outside images).2 }
    Session outside images [first, second] ∧
      (first.run outside images).1 = .error (.write (.file .isDirectory)) ∧
      (second.run outside images).1 = .ok (some target) ∧
      ∀ content, (second.run outside images).2.disk.contentAt target ≠ .ok content := by
  intro outside images target first second
  have directory : (second.run outside images).2.disk.kindAt target = .ok .directory :=
    eq_ok_of_toOption (by decide +kernel)
  refine ⟨List.isChain_pair.mpr (.refl images _),
    eq_error_of_failureOf? (by decide +kernel), eq_ok_of_toOption (by decide +kernel),
    fun content found => ?_⟩
  cases directory.symm.trans (Disk.kindAt_of_contentAt found)

/-- A directory whose name is spelled with slashes behind it. -/
def slashed : Nat → Path
  | 0 => ⟨"b/"⟩
  | count + 1 => ⟨(slashed count).text ++ "/"⟩

/-- A directory with slashes behind it is spelled so. -/
theorem toList_slashed (count : Nat) :
    (slashed count).text.toList = 'b' :: List.replicate (count + 1) '/' := by
  induction count with
  | zero => rfl
  | succ count inductionHypothesis =>
    rw [slashed, String.toList_append, inductionHypothesis, List.replicate_succ' (n := count + 1)]
    rfl

/-- Every slash makes the path one byte longer. -/
theorem utf8ByteSize_slashed (count : Nat) : (slashed count).text.utf8ByteSize = count + 2 := by
  induction count with
  | zero => rfl
  | succ count inductionHypothesis =>
    rw [slashed, String.utf8ByteSize_append, inductionHypothesis]
    rfl

/-- A file in such a directory is spelled with all but one of the slashes. -/
theorem toList_child_slashed (count : Nat) :
    ((slashed count).child "u.png").text.toList =
      ['b'] ++ '/' :: (List.replicate count '/' ++ "u.png".toList) := by
  have some : (slashed count).text ≠ "" := by
    intro empty
    have spelled := toList_slashed count
    rw [empty] at spelled
    cases spelled
  unfold Path.child Path.join
  rw [if_neg, if_pos]
  · rw [String.toList_append, toList_slashed]
    rfl
  · rw [toList_slashed, List.replicate_succ', ← List.cons_append, List.getLast?_concat]
  · rintro (absolute | empty)
    · cases absolute
    · exact some empty

/-- The parent of what is in a directory is spelled without slashes behind its name. -/
theorem parent?_slashed (count : Nat) :
    ((slashed count).child "u.png").parent? = some ⟨"b"⟩ := by
  have split : Path.reversePieces (['b'] ++ '/' :: (List.replicate count '/' ++ "u.png".toList)) =
      "u.png".toList :: (List.replicate count [] ++ [['b']]) := by
    unfold Path.reversePieces
    rw [Path.pieces_append_slash, Path.pieces_slashes,
      Path.pieces_of_slash_notMem (by decide : '/' ∉ "u.png".toList)]
    simp [Path.pieces, Path.isBlankPiece]
  have blank : (List.replicate count [] ++ [['b']]).dropWhile Path.isBlankPiece = [['b']] := by
    rw [List.dropWhile_append_of_pos fun piece member => by
      rw [List.eq_of_mem_replicate member]
      rfl]
    rfl
  have body : Path.headAndBody (['b'] ++ '/' :: (List.replicate count '/' ++ "u.png".toList)) =
      ([], ['b'] ++ '/' :: (List.replicate count '/' ++ "u.png".toList)) := rfl
  unfold Path.parent?
  rw [toList_child_slashed, body]
  dsimp only
  rw [split]
  dsimp only
  rw [blank]
  rfl

/-- The image of a feed with one belongs into the image directory under its uid. -/
theorem target?_oneImage (images : Path) :
    target? (oneImage "u" "u") "u" ⟨images, ⟨"icons"⟩⟩ = some (images.child "u.png") := by
  have found : (oneImage "u" "u").get? "u" =
      some ⟨"u", "", .published, some "cdn://h/i.png"⟩ := by decide
  have extension : ((Url.parse "cdn://h/i.png").toOption.bind fun url =>
      (Path.mk url.path).extension?) = some "png" := by decide
  unfold target? Entry.localImage?
  rw [found, Option.bind_some, if_pos (by decide), Option.map_some]
  dsimp only
  rw [extension]
  rfl

/-- A copy under a path that is too long is stored, and downloaded again. -/
theorem localize_repeats (count : Nat) (long : Disk.pathLimit ≤ count) :
    let outside := constantNetwork "new".toUTF8
    let images := slashed count
    let first : Call Unit := ⟨oneImage "u" "u", "u", ⟨"icons"⟩, ⟨⟨[], [], []⟩, [], [], [], ()⟩⟩
    let second : Call Unit := { first with world := (first.run outside images).2 }
    Session outside images [first, second] ∧
      (first.run outside images).1 = .ok (some ⟨"b/u.png"⟩) ∧
      second.events outside images ≠ [] := by
  intro outside images first second
  have isTarget := target?_oneImage images
  have single : Path.IsSingle "u.png" := by decide
  have tooLong : Disk.pathLimit ≤ (images.child "u.png").text.utf8ByteSize := by
    have longer := Path.utf8ByteSize_le_of_prefix (Path.text_prefix_child images single)
    rw [utf8ByteSize_slashed] at longer
    omega
  refine ⟨List.isChain_pair.mpr (.refl images _), ?_, fun none => ?_⟩
  · have written (start : World Unit) (same : start.disk = first.world.disk) :
        ((Program.writeFile ⟨"b"⟩ "u.png" "new".toUTF8).run outside start).1 =
          .ok ⟨"b/u.png"⟩ := by
      have alone : ((Program.writeFile ⟨"b"⟩ "u.png" "new".toUTF8).run outside first.world).1 =
          .ok ⟨"b/u.png"⟩ := eq_ok_of_toOption (by decide +kernel)
      exact ((Program.confined_writeFile _ _ _).run_onDisk same).1.trans alone
    obtain ⟨cause, missing⟩ := first.world.disk.kindAt_of_long tooLong
    obtain ⟨image, run⟩ := run_localize_of_some outside isTarget first.world
    obtain ⟨last, -⟩ := Path.fileName?_child images single
    have answer := congrArg Prod.fst run
    rw [missing] at answer
    refine answer.trans ?_
    unfold downloadThumbnail
    have reply : (outside.fetch image first.world.outside).1 = .ok "new".toUTF8 := rfl
    rw [Program.run_bind, Program.run_fetch, reply, parent?_slashed, last]
    dsimp only [Option.getD_some]
    rw [Program.run_bind, written]
    · rfl
    · rfl
  · obtain ⟨image, reply, events⟩ :=
      (second.localizes outside images).events_of_long isTarget tooLong
    cases none.symm.trans events

end Media
end QuizFeed
