import Mathlib.Data.List.Chain
import QuizFeed.Proofs.Command.Attempts
import QuizFeed.Proofs.Media.Confinement
import QuizFeed.Proofs.Settings.Document

/-!
# Commands and the settings file

A settings file that is there lies in a directory (`Settings.leads_directoryOf`), so a change of
settings replaces the file or does nothing (`Attempt.saves_of_configure`). Every other command
leaves the file as it is (`Attempt.contentAt_ended`), unless it copies an image over it by a path
that does not show the file (`Attempt.CopiesOver`, `thumbnail_over_settings`).
-/

namespace QuizFeed

open Files Cache

namespace Command

/-- A change replaces what it names, where a blank token stands for none. -/
theorem Change.apply_eq (change : Change) (settings : FeedSettings) :
    change.apply settings =
      { token := match change.token with
          | none => settings.token
          | some token => if Text.trim token = "" then none else some token
        template := settings.template
        unpublished := change.unpublished.getD settings.unpublished
        titleStart := change.titleStart.getD settings.titleStart } := by
  unfold apply
  cases change.token with
  | none => rfl
  | some token => by_cases blank : Text.trim token = "" <;> simp [blank, Option.filter]

variable {ε : Type} {outside : Outside ε}

namespace Attempt

variable {attempt : Attempt ε} {name : String} {content : ByteArray}

/-- Whether a local copy is made at the place of the settings file by a path that does not show what
is there: it is too long, or leads back by `..` to a directory that it does not reach. -/
def CopiesOver (outside : Outside ε) (attempt : Attempt ε) : Prop :=
  ∃ settings asked feed code target,
    attempt.settings? outside = some settings ∧ attempt.consultation? outside = some asked ∧
    asked.call.result = .ok feed ∧ attempt.invocation.task = .thumbnail code ∧
    Media.target? feed code settings.media = some target ∧
    asked.world.disk.destination target =
      asked.world.disk.destination attempt.invocation.settings ∧
    (Disk.pathLimit ≤ target.text.utf8ByteSize ∨
      (asked.world.disk.IsTree → ['.', '.'] ∈ settings.media.images.names) ∧
        ∀ location, ¬ asked.world.disk.Leads settings.media.images location)

/-- A call for the feed leaves the settings file. -/
theorem contentAt_call {asked : Consultation ε}
    (consulted : attempt.consultation? outside = some asked)
    (found : attempt.world.disk.contentAt attempt.invocation.settings = .ok content)
    (last : attempt.invocation.settings.fileName? = some name) :
    asked.world.disk.contentAt attempt.invocation.settings = .ok content := by
  obtain ⟨key, writes⟩ := call_writes consulted
  refine writes.contentAt found ?_
  rw [Settings.destination_directoryOf _ last]
  exact (attempt.place_ne_beside _ key name).symm

/-- A command that does not consult the feed leaves the disk, unless it changes settings. -/
theorem disk_of_no_consultation (consulted : attempt.consultation? outside = none)
    (prints : ∀ change, attempt.invocation.task ≠ .configure change) :
    (attempt.ended outside).disk = attempt.world.disk := by
  cases loaded : attempt.settings? outside with
  | none => exact (run_of_unreadable loaded).1
  | some settings =>
    unfold consultation? at consulted
    rw [loaded] at consulted
    rcases Task.eq_of_print?_eq_none (Option.map_eq_none_iff.mp consulted) with
      ⟨code, task⟩ | ⟨change, task⟩
    · exact (run_of_lookup_id task).1
    · exact absurd task (prints change)

/-- Localizing an image leaves a file, unless the local copy belongs at its place, by a path that
does not show what is there. -/
theorem contentAt_localize {world : World ε} {path target : Path} {feed : Feed} {code : String}
    {media : MediaSettings} (isTarget : Media.target? feed code media = some target)
    (found : world.disk.contentAt path = .ok content)
    (shown : world.disk.destination target = world.disk.destination path →
      target.text.utf8ByteSize < Disk.pathLimit ∧
        ((world.disk.IsTree → ['.', '.'] ∈ media.images.names) →
          ∃ location, world.disk.Leads media.images location)) :
    ((Media.localize feed code media).run outside world).2.disk.contentAt path = .ok content := by
  have writes := Media.localize_writes outside isTarget world
  by_cases here : world.disk.destination path = world.disk.destination target
  · -- The path of the copy shows the file, so no copy is made.
    obtain ⟨fits, reached⟩ := shown here.symm
    have there := Disk.node?_of_contentAt found
    refine Disk.contentAt_keeps writes.keepsDirectories found ?_
    rw [here] at there ⊢
    refine Media.localize_keeps outside isTarget there fits ?_
    by_cases back : world.disk.IsTree → ['.', '.'] ∈ media.images.names
    · exact .inl (reached back)
    · exact .inr (Classical.not_imp.mp back)
  · exact writes.contentAt found here

/-- A command that does not change settings leaves the settings file, unless it copies an image over
it. -/
theorem contentAt_ended (prints : ∀ change, attempt.invocation.task ≠ .configure change)
    (spares : ¬ attempt.CopiesOver outside)
    (found : attempt.world.disk.contentAt attempt.invocation.settings = .ok content)
    (last : attempt.invocation.settings.fileName? = some name) :
    (attempt.ended outside).disk.contentAt attempt.invocation.settings = .ok content := by
  cases consulted : attempt.consultation? outside with
  | none =>
    rw [disk_of_no_consultation consulted prints]
    exact found
  | some asked =>
    have kept := contentAt_call consulted found last
    obtain ⟨settings, loaded, asks⟩ := print_of_consultation? consulted
    unfold ended
    rw [(run_of_consultation? consulted).1]
    rcases disk_finish outside asks asked.call.result asked.world with
      same | ⟨feed, code, answered, task, same⟩
    · rw [same]
      exact kept
    rw [same]
    cases isTarget : Media.target? feed code settings.media with
    | none =>
      rw [Media.run_localize_of_none outside isTarget]
      exact kept
    | some target =>
      refine contentAt_localize isTarget kept fun here => ?_
      by_contra hidden
      refine spares ⟨settings, asked, feed, code, target, loaded, consulted, answered, task,
        isTarget, here, ?_⟩
      by_contra shown
      rw [not_or, not_and, not_forall, Nat.not_le] at shown
      obtain ⟨fits, reached⟩ := shown
      refine hidden ⟨fits, fun back => ?_⟩
      obtain ⟨location, leads⟩ := reached back
      exact ⟨location, not_not.mp leads⟩

/-- Commands that do not change settings leave the settings file, one after the other. -/
theorem contentAt_run {path : Path} {attempts : List (Attempt ε)}
    (last : path.fileName? = some name)
    (each : ∀ attempt ∈ attempts, attempt.invocation.settings = path ∧
      (∀ change, attempt.invocation.task ≠ .configure change) ∧ ¬ attempt.CopiesOver outside)
    (chain : attempts.IsChain fun first second =>
      second.world.disk.contentAt path = (first.ended outside).disk.contentAt path)
    (begun : ∀ first ∈ attempts.head?, first.world.disk.contentAt path = .ok content) :
    ∀ attempt ∈ attempts, attempt.world.disk.contentAt path = .ok content ∧
      (attempt.ended outside).disk.contentAt path = .ok content := by
  induction attempts with
  | nil => simp
  | cons first rest inductionHypothesis =>
    obtain ⟨⟨rfl, prints, spares⟩, others⟩ := List.forall_mem_cons.mp each
    have found := begun first rfl
    have kept := contentAt_ended prints spares found last
    intro attempt member
    rcases List.mem_cons.mp member with rfl | later
    · exact ⟨found, kept⟩
    · refine inductionHypothesis others chain.tail ?_ attempt later
      intro next isNext
      rw [(List.isChain_cons.mp chain).1 next isNext]
      exact kept

end Attempt

variable (outside)

/-- Only a change of settings changes a settings file, and only in what it names. If it ends with an
output, the file is read again as the settings that it was read as before, with the options that are
given instead of theirs, where a blank token stands for none; if it fails, the file is as it was. It
asks clock and network for nothing, leaves everything else on the disk, and does not depend on the
token of its invocation. Other commands leave the file as it is, one after the other, unless one of
them copies an image over it. -/
theorem settings_only_configured {path : Path} {name : String}
    (last : path.fileName? = some name) :
    (∀ (attempt : Attempt ε) settings content change, attempt.invocation.settings = path →
      attempt.invocation.task = .configure change →
      attempt.settings? outside = some settings →
      attempt.world.disk.contentAt path = .ok content →
      let result := (run attempt.invocation).run outside attempt.world
      (∀ output, result.1 = .ok output →
        (Settings.load path).run outside result.2 =
          (.ok {
            feed := {
              token := match change.token with
                | none => settings.feed.token
                | some token => if Text.trim token = "" then none else some token
              template := settings.feed.template
              unpublished := change.unpublished.getD settings.feed.unpublished
              titleStart := change.titleStart.getD settings.feed.titleStart }
            media := settings.media }, result.2)) ∧
      (∀ failure, result.1 = .error failure → result.2.disk.contentAt path = .ok content) ∧
      attempt.events outside = [] ∧
      (∀ location, location ≠ attempt.world.disk.destination path →
        result.2.disk.node? location = attempt.world.disk.node? location) ∧
      ∀ token, run { attempt.invocation with token := token } = run attempt.invocation) ∧
    (∀ (attempts : List (Attempt ε)) content,
      (∀ attempt ∈ attempts, attempt.invocation.settings = path ∧
        (∀ change, attempt.invocation.task ≠ .configure change) ∧
        ¬ attempt.CopiesOver outside) →
      (attempts.IsChain fun first second =>
        second.world.disk.contentAt path = (first.ended outside).disk.contentAt path) →
      (∀ first ∈ attempts.head?, first.world.disk.contentAt path = .ok content) →
      ∀ attempt ∈ attempts, attempt.world.disk.contentAt path = .ok content ∧
        (attempt.ended outside).disk.contentAt path = .ok content) := by
  constructor
  · rintro attempt settings content change rfl task loaded found result
    have silent := (Attempt.run_of_configure outside task).1
    have independent : ∀ token,
        run { attempt.invocation with token := token } = run attempt.invocation := by
      intro token
      unfold run
      dsimp only
      simp only [task, perform]
    rcases Attempt.saves_of_configure task loaded found last with
      ⟨output, answer, holds⟩ | ⟨failure, answer, alike⟩
    · refine ⟨fun _ _ => ?_, fun other failed => ?_, silent, fun location beside => ?_,
        independent⟩
      · have held := Disk.contentAt_keeps holds.keepsDirectories found
          ((holds.node?_eq _).trans (if_pos rfl))
        rw [← Settings.Selection.document_all] at held
        rw [Settings.run_load outside held (Settings.Selection.all.ofDocument_document _),
          Settings.Selection.kept_all, Change.apply_eq]
      · cases answer.symm.trans failed
      · rw [holds.node?_eq, if_neg beside]
    · refine ⟨fun output succeeded => ?_, fun _ _ => ?_, silent, fun location _ => ?_, independent⟩
      · cases answer.symm.trans succeeded
      · refine Disk.contentAt_keeps ⟨alike.working, fun location isDirectory => ?_⟩ found ?_
        · rwa [Disk.isDirectory_iff, alike.node?_eq, ← Disk.isDirectory_iff]
        · rw [alike.node?_eq]
          exact Disk.node?_of_contentAt found
      · exact alike.node?_eq location
  · intro attempts content each chain begun
    exact Attempt.contentAt_run last each chain begun

/-- A blank token stands for none when settings are changed, and a token that is given for a single
command is not kept. Where the device cannot put the new file on it for good, the old one stays. -/
theorem settings_only_configured_blank :
    let path : Path := ⟨"s.ron"⟩
    let content := "(feed:(token:Some(\"a\"),fetch_unpublished:true))".toUTF8
    let failing : Fault := { syncing := some (.other "Input/output error (os error 5)") }
    let worldWith := fun faults : List (Location × Fault) =>
      (⟨⟨[(["s.ron"], .file content)], [], faults⟩, [], [], [], ()⟩ : World Unit)
    let world := worldWith []
    let changing : Attempt Unit :=
      ⟨{ settings := path, token := some "b",
         task := .configure { token := some " ", titleStart := some "Q" } }, world⟩
    let stuck : Attempt Unit := ⟨changing.invocation, worldWith [([], failing)]⟩
    let printing : Attempt Unit :=
      ⟨{ settings := path, token := some "b", task := .feed }, world⟩
    let result := (run changing.invocation).run idle changing.world
    (Settings.load path).run idle result.2 =
        (.ok { feed := { unpublished := true, titleStart := "Q" } }, result.2) ∧
      ((run stuck.invocation).run idle stuck.world).1.toOption = none ∧
      (stuck.ended idle).disk.contentAt path = .ok content ∧
      (printing.ended idle).disk.contentAt path = .ok content := by
  intro path content failing worldWith world changing stuck printing result
  have last : path.fileName? = some "s.ron" := by decide
  have held : world.disk.contentAt path = .ok content := eq_ok_of_toOption (by decide)
  have loaded : changing.settings? idle =
      some { feed := { token := some "a", unpublished := true } } := by decide +kernel
  have loadedStuck : stuck.settings? idle = changing.settings? idle := by decide +kernel
  have failed : ((run stuck.invocation).run idle stuck.world).1.toOption = none := by
    decide +kernel
  obtain ⟨failure, isFailure⟩ : ∃ failure,
      ((run stuck.invocation).run idle stuck.world).1 = .error failure := by
    cases answer : ((run stuck.invocation).run idle stuck.world).1 with
    | error failure => exact ⟨failure, rfl⟩
    | ok output =>
      rw [answer] at failed
      cases failed
  have saved : result.1 = .ok ⟨.success, "saved ./s.ron\n"⟩ := eq_ok_of_toOption (by decide +kernel)
  obtain ⟨configured, kept⟩ := settings_only_configured idle last
  obtain ⟨reread, _⟩ := configured changing _ _ _ rfl rfl loaded held
  have blank : Text.trim " " = "" := by decide
  have reread := reread _ saved
  dsimp only at reread
  rw [if_pos blank] at reread
  obtain ⟨-, same, -⟩ := configured stuck _ _ _ rfl rfl (loadedStuck.trans loaded) held
  refine ⟨reread, failed, same _ isFailure,
    (kept [printing] _ ?_ (.singleton _) ?_ printing (by simp)).2⟩
  · simp only [List.forall_mem_singleton]
    refine ⟨rfl, nofun, ?_⟩
    rintro ⟨_, _, _, _, _, _, _, _, task, _⟩
    cases task
  · rintro first same
    cases same
    exact held

/-- Where the way to the image directory leads through a missing directory and back to the settings
file, a thumbnail replaces the file. -/
theorem thumbnail_over_settings :
    let path : Path := ⟨"s.ron"⟩
    let content := "(media:(local_images:\"a/..\"))".toUTF8
    let data := "\x7b\"title\":\"T\",\"image\":\x7b\"standard\":\"cdn://h/i.ron\"\x7d\x7d"
    let body := ("[\x7b\"uid\":\"s\",\"data\":" ++ data ++ "\x7d]").toUTF8
    let attempt : Attempt Unit :=
      ⟨{ settings := path, token := some "t", task := .thumbnail "s" },
        ⟨⟨[(["s.ron"], .file content)], [], []⟩, [], [], [], ()⟩⟩
    let result := (run attempt.invocation).run (Media.constantNetwork body) attempt.world
    (attempt.settings? (Media.constantNetwork body)).isSome = true ∧
      result.1 = .ok ⟨.success, "a/../s.ron\n"⟩ ∧
      attempt.world.disk.contentAt path = .ok content ∧
      result.2.disk.contentAt path = .ok body ∧ content ≠ body := by
  intro path content data body attempt result
  have evaluated : (attempt.settings? (Media.constantNetwork body)).isSome = true ∧
      result.1.toOption = some ⟨.success, "a/../s.ron\n"⟩ ∧
      (attempt.world.disk.contentAt path).toOption = some content ∧
      (result.2.disk.contentAt path).toOption = some body ∧ content.size ≠ body.size := by
    decide +kernel
  obtain ⟨loaded, answer, before, after, different⟩ := evaluated
  exact ⟨loaded, eq_ok_of_toOption answer, eq_ok_of_toOption before, eq_ok_of_toOption after,
    fun same => different (by rw [same])⟩

end Command
end QuizFeed
