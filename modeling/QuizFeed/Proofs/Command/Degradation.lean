import QuizFeed.Proofs.Command.Attempts
import QuizFeed.Proofs.Feed.Failures

/-!
# Commands without a feed

A command that prints does so whatever the feed, the cache and the images are like. Where the
loading of the feed fails, the task prints `Task.fallback` (`run_of_failed`), and where the local
copy of an image is not to be had, it prints the path of the default icon (`print_of_no_copy`). The
only failure that is not absorbed is that of a clock at the end of its range (`limited_of_events`).
-/

namespace QuizFeed.Command

open Files

variable {ε : Type} {outside : Outside ε} {settings : MediaSettings} {task : Task}
  {print : Feed → Program String}

/-- A thumbnail without a local copy is the default icon. -/
theorem run_print_of_no_copy (outside : Outside ε) {code : String} {feed : Feed} {world : World ε}
    (asks : (Task.thumbnail code).print? settings = some print)
    (noCopy : ∀ path,
      ((Media.localize feed code settings).run outside world).1 ≠ .ok (some path)) :
    ((print feed).run outside world).1 = line settings.defaultImage.text := by
  cases asks
  rw [Program.run_bind, Program.run_pure]
  unfold thumbnailPath
  rw [Program.run_bind]
  generalize (Media.localize feed code settings).run outside world = localized at noCopy ⊢
  obtain ⟨answer, after⟩ := localized
  cases answer with
  | error failure => rfl
  | ok found =>
    cases found with
    | none => rfl
    | some path => exact absurd rfl (noCopy path)

namespace Attempt

variable {attempt : Attempt ε} {asked : Consultation ε}

/-- The loading of the feed does not fail for the clock where a lifetime can be added to every
reading. -/
theorem limited_of_events (consulted : attempt.consultation? outside = some asked)
    (limited : ∀ instant, .reading instant ∈ attempt.events outside →
      (instant.later? Feed.lifetime).isSome = true) :
    asked.call.result ≠ .error .expiryOutOfRange := by
  intro failed
  obtain ⟨put, loads, _⟩ := loads_of_consultation? consulted
  rw [failed] at loads
  have readings := (run_of_consultation? consulted).2
  generalize asked.call.events = events at loads readings
  cases loads with
  | failed usable stale bad => exact Feed.ofReply_of_valueOfReply bad
  | @unlimited _ _ _ _ finish usable stale good last =>
    have representable := limited finish (by rw [readings]; simp)
    rw [last] at representable
    cases representable

/-- A command makes no call for the feed if its task prints nothing about it. -/
theorem consultation?_eq_none_iff {settings : Settings}
    (loaded : attempt.settings? outside = some settings) :
    attempt.consultation? outside = none ↔
      attempt.invocation.task.print? settings.media = none := by
  unfold consultation?
  rw [loaded]
  exact Option.map_eq_none_iff

/-- The look-up of an identifier prints it, and asks for the settings file and nothing else. -/
theorem run_of_identifier {settings : Settings} {code : String}
    (loaded : attempt.settings? outside = some settings)
    (task : attempt.invocation.task = .lookup code .id) :
    ((run attempt.invocation).run outside attempt.world).1 =
        .ok ⟨.success, lookupText .empty code .id settings.media⟩ ∧
      ∀ effect ∈ (run attempt.invocation).effects outside attempt.world,
        effect = .readFile attempt.invocation.settings ∨ ∃ record, effect = .log record := by
  constructor
  · rw [(run_of_settings? loaded).1, task, perform, Program.run_pure]
  · intro effect asked
    rw [run, Program.effects_bind, eq_ok_of_toOption loaded] at asked
    dsimp only at asked
    rw [task, perform] at asked
    rcases List.mem_append.mp asked with reading | nothing
    · exact (Settings.confined_load _).mem_effects reading
    · cases nothing

/-- A command whose call for the feed fails prints its fallback, and nothing happens outside after
the call. -/
theorem run_of_failed (consulted : attempt.consultation? outside = some asked)
    {settings : Settings} (loaded : attempt.settings? outside = some settings)
    {failure : Feed.LoadFailure} (failed : asked.call.result = .error failure)
    (clock : failure ≠ .expiryOutOfRange) :
    ((run attempt.invocation).run outside attempt.world).1 =
        .ok ⟨.feedUnavailable, attempt.invocation.task.fallback settings.media⟩ ∧
      attempt.events outside = asked.call.events := by
  obtain ⟨runs, happens⟩ := run_of_consultation? consulted
  obtain ⟨own, found, asks⟩ := print_of_consultation? consulted
  obtain rfl := Option.some.inj (loaded.symm.trans found)
  obtain ⟨printed, silent⟩ := run_finish_of_failed outside asks clock asked.world
  rw [runs, happens, failed, printed, silent, List.append_nil]
  exact ⟨rfl, rfl⟩

/-- A thumbnail is the default icon if there is no place for a local copy, or making it fails. -/
theorem print_of_no_copy (consulted : attempt.consultation? outside = some asked)
    {settings : Settings} (loaded : attempt.settings? outside = some settings) {code : String}
    (task : attempt.invocation.task = .thumbnail code) {feed : Feed}
    (noCopy : Media.target? feed code settings.media = none ∨ ∃ failure,
      ((Media.localize feed code settings.media).run outside asked.world).1 = .error failure) :
    ((asked.print feed).run outside asked.world).1 = line settings.media.defaultImage.text := by
  obtain ⟨own, found, asks⟩ := print_of_consultation? consulted
  obtain rfl := Option.some.inj (loaded.symm.trans found)
  rw [task] at asks
  apply run_print_of_no_copy outside asks
  intro path stored
  rcases noCopy with noPlace | ⟨failure, failed⟩
  · rw [Media.run_localize_of_none outside noPlace] at stored
    cases stored
  · rw [failed] at stored
    cases stored

end Attempt

open Attempt in
/-- Commands do not fail for the sake of the feed or of an image: with settings that can be read,
and a clock to every reading of which half a minute can be added, every command but a change of
settings ends with an output. The feed is unavailable exactly if the command calls for it, which all
but look-ups of identifiers do, and the call fails; then the task prints its fallback and downloads
no image. A thumbnail is the default icon where the code has no place for a local copy, or where
making the copy fails. The look-up of an identifier prints it, and reads the settings file and
nothing else. -/
theorem run_degrades (outside : Outside ε) (attempt : Attempt ε) {settings : Settings}
    (loaded : attempt.settings? outside = some settings)
    (prints : ∀ change, attempt.invocation.task ≠ .configure change)
    (limited : ∀ instant, .reading instant ∈ attempt.events outside →
      (instant.later? 30).isSome = true) :
    ∃ output, ((run attempt.invocation).run outside attempt.world).1 = .ok output ∧
      (attempt.consultation? outside = none ↔
        ∃ code, attempt.invocation.task = .lookup code .id) ∧
      (output.outcome = .feedUnavailable ↔ ∃ asked failure,
        attempt.consultation? outside = some asked ∧ asked.call.result = .error failure) ∧
      (output.outcome = .feedUnavailable →
        output.text = attempt.invocation.task.fallback settings.media ∧
        ∃ asked, attempt.consultation? outside = some asked ∧
          attempt.events outside = asked.call.events) ∧
      (∀ asked feed code, attempt.consultation? outside = some asked →
        asked.call.result = .ok feed → attempt.invocation.task = .thumbnail code →
        (Media.target? feed code settings.media = none ∨ ∃ failure,
          ((Media.localize feed code settings.media).run outside asked.world).1 =
            .error failure) →
        output = ⟨.success, line settings.media.defaultImage.text⟩) ∧
      (∀ code, attempt.invocation.task = .lookup code .id → code ≠ "" →
        output = ⟨.success, line code⟩ ∧ attempt.events outside = [] ∧
        ∀ effect ∈ (run attempt.invocation).effects outside attempt.world,
          effect = .readFile attempt.invocation.settings ∨ ∃ record, effect = .log record) := by
  have silentIff : attempt.consultation? outside = none ↔
      ∃ code, attempt.invocation.task = .lookup code .id := by
    rw [consultation?_eq_none_iff loaded]
    constructor
    · intro silent
      exact (Task.eq_of_print?_eq_none silent).resolve_right fun ⟨change, task⟩ =>
        prints change task
    · rintro ⟨code, task⟩
      rw [task]
      rfl
  cases consulted : attempt.consultation? outside with
  | none =>
    obtain ⟨code, task⟩ := silentIff.mp consulted
    obtain ⟨printed, asks⟩ := run_of_identifier loaded task
    refine ⟨_, printed, by simp [task], by simp, by simp, by simp, fun other same named => ?_⟩
    obtain rfl : code = other := by simpa [task] using same
    refine ⟨?_, (run_of_lookup_id task).2, asks⟩
    simp [lookupText, Media.value?, named, Media.Value.display]
  | some asked =>
    have noIdentifier : ¬ ∃ code, attempt.invocation.task = .lookup code .id := by
      rw [← silentIff, consulted]
      exact nofun
    cases result : asked.call.result with
    | error failure =>
      have clock : failure ≠ .expiryOutOfRange := by
        rintro rfl
        exact limited_of_events consulted limited result
      obtain ⟨printed, happens⟩ := run_of_failed consulted loaded result clock
      refine ⟨_, printed, by simp [noIdentifier], ?_, ?_, ?_, ?_⟩
      · exact ⟨fun _ => ⟨asked, failure, rfl, result⟩, fun _ => rfl⟩
      · exact fun _ => ⟨rfl, asked, rfl, happens⟩
      · intro other feed code same answered
        obtain rfl := Option.some.inj same
        rw [result] at answered
        cases answered
      · exact fun code task => absurd ⟨code, task⟩ noIdentifier
    | ok feed =>
      refine ⟨_, run_of_answered consulted result, by simp [noIdentifier], ?_, by simp, ?_, ?_⟩
      · constructor
        · exact nofun
        · rintro ⟨other, failure, same, failed⟩
          obtain rfl := Option.some.inj same
          rw [result] at failed
          cases failed
      · intro other answer code same answered task noCopy
        obtain rfl := Option.some.inj same
        obtain rfl : feed = answer := by simpa [result] using answered
        rw [print_of_no_copy consulted loaded task noCopy]
      · exact fun code task => absurd ⟨code, task⟩ noIdentifier

/-- Without a settings file, a thumbnail is the default icon while the network is down. -/
theorem run_degrades_down :
    let attempt : Attempt Time.Instant :=
      ⟨{ token := some "t", task := .thumbnail "c" }, Feed.worldAt .epoch⟩
    attempt.settings? Feed.noNetwork = some {} ∧
      ((run attempt.invocation).run Feed.noNetwork attempt.world).1 =
        .ok ⟨.feedUnavailable, "icons/riddle.png\n"⟩ := by
  intro attempt
  have loaded : attempt.settings? Feed.noNetwork = some {} := by decide
  have readings : ∀ event ∈ attempt.events Feed.noNetwork, ∀ instant ∈ event.instant?,
      (instant.later? 30).isSome = true := by decide +kernel
  have failed : ((attempt.consultation? Feed.noNetwork).bind fun asked =>
      failureOf? asked.call.result) = some (.transport ⟨.network, "down"⟩) := by decide +kernel
  obtain ⟨asked, consulted, failure⟩ := Option.bind_eq_some_iff.mp failed
  obtain ⟨⟨outcome, text⟩, ran, _, unavailable, fallback, _⟩ :=
    run_degrades Feed.noNetwork attempt loaded nofun fun instant reading =>
      readings _ reading instant rfl
  have outcome_eq : outcome = .feedUnavailable :=
    unavailable.mpr ⟨asked, _, consulted, eq_error_of_failureOf? failure⟩
  obtain ⟨text_eq, _⟩ := fallback outcome_eq
  refine ⟨loaded, ran.trans ?_⟩
  dsimp only at text_eq
  rw [outcome_eq, text_eq]
  rfl

end QuizFeed.Command
