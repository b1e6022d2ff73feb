import QuizFeed.Proofs.Media.Downloads

/-!
# The field and the local copy

The place of a local copy is known without a look at the disk: it is a field of the media item
(`value?_localThumbnail`). A call for the copy is answered with this place, as a path with the same
components, and with nothing exactly where the field has no value (`Localizes.eq_ok_none_iff`,
`Localizes.exists_target`). After that something is at the place (`Localizes.exists_kindAt`), so
that a second call does nothing. This last step needs a place whose path can be looked up.
-/

namespace QuizFeed.Media

open Files

variable {feed : Feed} {code : String} {settings : MediaSettings}

/-- The field of the local copy is its place, for a code that is not empty. -/
theorem value?_localThumbnail (named : code ≠ "") :
    value? feed code .localThumbnail settings = (target? feed code settings).map .path :=
  if_neg named

namespace Localizes

variable {images path : Path} {subject? : Option Entry} {before after : Disk} {events : List Event}
  {result : Except ThumbnailFailure (Option Path)}

/-- A call is answered with nothing exactly where the copy has no place. -/
theorem eq_ok_none_iff (localizes : Localizes images subject? before events result after) :
    result = .ok none ↔ (subject?.bind fun entry => entry.localImage? images) = none := by
  have placed {entry : Entry} {target : Path} (isEntry : subject? = some entry)
      (isTarget : entry.localImage? images = some target) :
      (subject?.bind fun entry => entry.localImage? images) ≠ none := by
    rw [isEntry, Option.bind_some, isTarget]
    exact Option.some_ne_none target
  cases localizes with
  | absent noTarget => exact iff_of_true rfl noTarget
  | there isEntry isTarget => exact iff_of_false nofun (placed isEntry isTarget)
  | failed lacks | unwritten lacks | stored lacks =>
    exact iff_of_false nofun (placed lacks.isEntry lacks.isTarget)

/-- A call is answered with the place of the copy, up to its spelling. -/
theorem exists_target
    (localizes : Localizes images subject? before events (.ok (some path)) after) :
    ∃ target, (subject?.bind fun entry => entry.localImage? images) = some target ∧
      target.components = path.components := by
  cases localizes with
  | there isEntry isTarget =>
    refine ⟨path, ?_, rfl⟩
    rw [isEntry, Option.bind_some, isTarget]
  | @stored entry image target _ _ _ _ lacks _ same =>
    refine ⟨target, ?_, same.symm⟩
    rw [lacks.isEntry, Option.bind_some, lacks.isTarget]

/-- After a call that is answered with a path, something is where the copy belongs, unless the path
of that place is too long. -/
theorem exists_kindAt {target : Path}
    (localizes : Localizes images subject? before events (.ok (some path)) after)
    (isTarget : (subject?.bind fun entry => entry.localImage? images) = some target)
    (fits : target.text.utf8ByteSize < Disk.pathLimit) :
    ∃ kind, after.kindAt target = .ok kind := by
  cases localizes with
  | @there entry _ kind isEntry isPlace found =>
    rw [isEntry, Option.bind_some, isPlace] at isTarget
    cases isTarget
    exact ⟨kind, found⟩
  | stored lacks _ _ _ _ reached =>
    rw [lacks.isEntry, Option.bind_some, lacks.isTarget] at isTarget
    cases isTarget
    exact ⟨.file, Disk.kindAt_of_contentAt (reached fits)⟩

end Localizes

/-- The field of a local copy and the call for it agree. The call is answered with nothing exactly
if the field has no value. A path that it is answered with has the components of the path in the
field, and a second call on the same disk is then answered with that path and does nothing, unless
the path is too long to be followed. -/
theorem localize_agrees {ε δ : Type} (outside : Outside ε) (later : Outside δ) (feed : Feed)
    (code : String) (settings : MediaSettings) (world : World ε) (named : code ≠ "") :
    let program := localize feed code settings
    let field := value? feed code .localThumbnail settings
    ((program.run outside world).1 = .ok none ↔ field = none) ∧
      ∀ path, (program.run outside world).1 = .ok (some path) →
        ∃ target, field = some (.path target) ∧ target.components = path.components ∧
          (target.text.utf8ByteSize < Disk.pathLimit → ∀ again : World δ,
            again.disk = (program.run outside world).2.disk →
              program.run later again = (.ok (some target), again) ∧
                program.events later again = []) := by
  intro program field
  have localizes := localize_localizes outside feed code settings world
  have isField : field = (target? feed code settings).map .path := value?_localThumbnail named
  constructor
  · rw [isField, Option.map_eq_none_iff]
    exact localizes.eq_ok_none_iff
  · intro path answered
    change Localizes _ _ _ _ (program.run outside world).1 _ at localizes
    rw [answered] at localizes
    obtain ⟨target, isTarget, same⟩ := localizes.exists_target
    have isPlace : target? feed code settings = some target := isTarget
    refine ⟨target, isField.trans (congrArg _ isPlace), same, fun fits again kept => ?_⟩
    obtain ⟨kind, there⟩ := localizes.exists_kindAt isTarget fits
    rw [← kept] at there
    exact ⟨run_localize_of_there later isPlace there,
      (localize_localizes later feed code settings again).events_of_there isPlace there⟩

/-- A copy is stored under a path that is spelled otherwise than in the field, and is found under
the latter. -/
theorem localize_agrees_respelled :
    let outside := constantNetwork "new".toUTF8
    let settings : MediaSettings := ⟨⟨"b//."⟩, ⟨"icons"⟩⟩
    let program := localize (oneImage "c" "u") "c" settings
    let first := program.run outside (⟨⟨[], [], []⟩, [], [], [], ()⟩ : World Unit)
    "c" ≠ "" ∧ first.1 = .ok (some ⟨"b/u.png"⟩) ∧
      value? (oneImage "c" "u") "c" .localThumbnail settings = some (.path ⟨"b//./u.png"⟩) ∧
      (⟨"b//./u.png"⟩ : Path).components = (⟨"b/u.png"⟩ : Path).components ∧
      program.run outside first.2 = (.ok (some ⟨"b//./u.png"⟩), first.2) ∧
      program.events outside first.2 = [] := by
  intro outside settings program first
  have named : "c" ≠ "" := by decide
  have answered : first.1 = .ok (some ⟨"b/u.png"⟩) := eq_ok_of_toOption (by decide +kernel)
  have field : value? (oneImage "c" "u") "c" .localThumbnail settings =
      some (.path ⟨"b//./u.png"⟩) := by
    decide
  obtain ⟨target, isField, same, again⟩ :=
    (localize_agrees outside outside (oneImage "c" "u") "c" settings _ named).2 _ answered
  cases field.symm.trans isField
  exact ⟨named, answered, field, same, again (by decide) first.2 rfl⟩

/-- A call that follows one that was answered with a path may download again: the copy is stored,
but its path in the field is too long to be followed. -/
theorem localize_downloads_again :
    ¬ ∀ (outside : Outside Unit) (feed : Feed) (code : String) (settings : MediaSettings)
      (world : World Unit) (path : Path), code ≠ "" →
      let program := localize feed code settings
      let first := program.run outside world
      first.1 = .ok (some path) → program.events outside first.2 = [] := by
  intro once
  obtain ⟨count, long⟩ : ∃ count, Disk.pathLimit ≤ count := ⟨_, le_rfl⟩
  obtain ⟨_, answered, again⟩ := localize_repeats count long
  have none := once (constantNetwork "new".toUTF8) (oneImage "u" "u") "u"
    ⟨slashed count, ⟨"icons"⟩⟩ ⟨⟨[], [], []⟩, [], [], [], ()⟩ ⟨"b/u.png"⟩ (by decide) answered
  exact again none

end QuizFeed.Media
