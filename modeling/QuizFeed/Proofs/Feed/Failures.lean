import QuizFeed.Proofs.Cache.Places
import QuizFeed.Proofs.Feed.Freshness

/-!
# Failures to load a feed

A feed cannot be loaded without a token, and then nothing at all is done. Otherwise a download
fails, and its failure is the one of the whole: an old snapshot is not served in its place
(`load_failures`). Whatever fails, the place where feeds are kept is left as it was.
-/

namespace QuizFeed.Feed

open Time Cache

variable {ε : Type} {settings : FeedSettings} {token : String}

/-- A token is unusable if it is missing or blank. -/
theorem usableToken_eq_none_iff : settings.usableToken = none ↔
    ∀ token, settings.token = some token → Text.trim token = "" := by
  unfold FeedSettings.usableToken
  cases settings.token with
  | none => simp
  | some token => simp [Option.filter_some]

/-- Without a token there is nothing to do. -/
theorem load_of_unusable (store : Store) (absent : settings.usableToken = none) :
    load settings store = pure (.error .missingToken) := by
  unfold load
  rw [absent]

section Failing

variable {outside : Outside ε} {state : ε} {contents : Contents} {events : List Event}
  {result : Except LoadFailure Feed} {put : Option (String × Snapshot)} {failure : LoadFailure}

/-- A call fails for a missing token only if there is no usable one. -/
theorem Loads.usableToken_of_missingToken
    (loads : Loads settings contents events (.error .missingToken) put) :
    settings.usableToken = none := by
  cases loads with
  | unauthorised absent => exact absent
  | failed _ _ bad => exact (ofReply_of_valueOfReply bad).elim

/-- Nothing is put into the store when there is no feed. -/
theorem Loads.put_of_error (loads : Loads settings contents events (.error failure) put) :
    put = none := by
  cases loads with
  | unauthorised | failed | unlimited => rfl

/-- A failure to read a reply comes from one download, which follows a look for a fresh snapshot. -/
theorem Loads.download_of_error (loads : Loads settings contents events (.error failure) put)
    (shown : outside.Shows state events) (ofReply : failure.OfReply) :
    ∃ token, settings.usableToken = some token ∧
      IsStale contents token (outside.now state).1 ∧
      valueOfReply (outside.fetch (settings.addressFor token) (outside.now state).2).1 =
        .error failure ∧
      events = [.reading (outside.now state).1, .request (settings.addressFor token)
        (outside.fetch (settings.addressFor token) (outside.now state).2).1] := by
  cases loads with
  | unauthorised | unlimited => exact ofReply.elim
  | @failed token start reply _ usable stale bad =>
    obtain ⟨rfl, rfl, _⟩ := shown
    exact ⟨token, usable, stale, bad, rfl⟩

/-- What clock and network show after a call has started decides whether it fails for a reply. -/
theorem Loads.error_iff (loads : Loads settings contents events result put)
    (shown : outside.Shows state events) (ofReply : failure.OfReply) :
    result = .error failure ↔ ∃ token, settings.usableToken = some token ∧
      IsStale contents token (outside.now state).1 ∧
      valueOfReply (outside.fetch (settings.addressFor token) (outside.now state).2).1 =
        .error failure := by
  constructor
  · rintro rfl
    obtain ⟨token, usable, stale, bad, _⟩ := loads.download_of_error shown ofReply
    exact ⟨token, usable, stale, bad⟩
  · rintro ⟨token, usable, stale, bad⟩
    have again : outside.Shows state [.reading _, .request (settings.addressFor token) _] :=
      ⟨rfl, rfl, trivial⟩
    exact (loads.unique (.failed usable stale bad) (fun _ _ => rfl) shown again).2.1

end Failing

/-- Loading through the store of a place is one of the ways to ask for a feed. -/
theorem load_place (outside : Outside ε) (settings : FeedSettings) (place : Place)
    (world : World ε) :
    ∃ put, place.store.Leaves outside (place.Holds world) (place.contents world)
        ((load settings place.store).run outside world).2 put ∧
      Loads settings (place.contents world) ((load settings place.store).events outside world)
        ((load settings place.store).run outside world).1 put :=
  load_loads settings world (place.reads outside world) (fun _ _ => trivial)
    ⟨place.same_refl world, rfl⟩

/-- The ways in which loading a feed fails. It misses a token exactly if there is none but blanks,
and then it does nothing. It fails for a reply exactly if there is a token, no snapshot of it is
fresh when the call starts, and that is how the one download fails. With every failure the place
where feeds are kept is as it was. -/
theorem load_failures (outside : Outside ε) (settings : FeedSettings) (place : Place)
    (world : World ε) :
    let program := load settings place.store
    let result := (program.run outside world).1
    let now := (outside.now world.outside).1
    let reply := fun token =>
      (outside.fetch (settings.addressFor token) (outside.now world.outside).2).1
    (result = .error .missingToken ↔
      ∀ token, settings.token = some token → Text.trim token = "") ∧
    (result = .error .missingToken → program = pure (.error .missingToken)) ∧
    (∀ failure, failure.OfReply →
      (result = .error failure ↔ ∃ token, settings.usableToken = some token ∧
        IsStale (place.contents world) token now ∧ valueOfReply (reply token) = .error failure)) ∧
    (∀ failure, failure.OfReply → result = .error failure →
      ∃ token, settings.usableToken = some token ∧ program.events outside world =
        [.reading now, .request (settings.addressFor token) (reply token)]) ∧
    (∀ failure, result = .error failure → place.Same world (program.run outside world).2) := by
  intro program result now reply
  obtain ⟨put, leaves, loads⟩ := load_place outside settings place world
  change Loads _ _ (program.events outside world) result put at loads
  have shown := Program.shows_events outside program world
  have missing : result = .error .missingToken → settings.usableToken = none :=
    fun failed => Loads.usableToken_of_missingToken (failed ▸ loads)
  refine ⟨?_, ?_, ?_, ?_, ?_⟩
  · rw [← usableToken_eq_none_iff]
    refine ⟨missing, fun absent => ?_⟩
    unfold result program
    rw [load_of_unusable _ absent, Program.run_pure]
  · exact fun failed => load_of_unusable _ (missing failed)
  · exact fun failure ofReply => loads.error_iff shown ofReply
  · intro failure ofReply failed
    obtain ⟨token, usable, _, _, happened⟩ :=
      Loads.download_of_error (failed ▸ loads) shown ofReply
    exact ⟨token, usable, happened⟩
  · intro failure failed
    obtain rfl := Loads.put_of_error (failed ▸ loads)
    cases leaves with
    | same held => exact held.1

/-- A clock that shows the state of the outside, and a network that is down. -/
def noNetwork : Outside Instant where
  now instant := (instant, instant)
  fetch _ instant := (.error ⟨.network, "down"⟩, instant)

/-- A snapshot that has just expired is not served when the network is down, and it stays. -/
theorem load_failures_expired :
    let memory := [(keyOf "t", Snapshot.mk .empty .epoch)]
    let world : World Instant := { worldAt .epoch with memory := memory }
    let result := (load { token := some " t" } Place.memory.store).run noNetwork world
    result.1 = .error (.transport ⟨.network, "down"⟩) ∧ result.2.memory = memory := by
  intro memory world result
  obtain ⟨_, _, downloads, _, unchanged⟩ :=
    load_failures noNetwork { token := some " t" } .memory world
  have stale : IsStale (Place.memory.contents world) "t" .epoch := by
    intro snapshot kept
    obtain rfl := Option.some.inj (show some (Snapshot.mk .empty .epoch) = some snapshot from kept)
    decide
  have failed := (downloads (.transport ⟨.network, "down"⟩) trivial).mpr
    ⟨"t", by decide, stale, rfl⟩
  exact ⟨failed, unchanged _ failed⟩

end QuizFeed.Feed
