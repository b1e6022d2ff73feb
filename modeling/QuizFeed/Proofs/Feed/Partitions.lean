import QuizFeed.Proofs.Feed.Failures

/-!
# Tokens are independent

Calls for feeds that share a place follow one another. What those for one token show does not change
when the calls for other tokens are left out (`calls_without_others`). The induction runs along both
sequences of calls and keeps their shared worlds alike for the key of the token: a call for the
token is made in both and leaves them alike (`call_alike`), any other call is made in one of them
and leaves them alike as well (`call_apart`).
-/

namespace QuizFeed

/-- Whether settings have a token, up to blanks around it. -/
def FeedSettings.isFor (settings : FeedSettings) (token : String) : Bool :=
  settings.token.map Text.trim == some (Text.trim token)

/-- A usable token is what is left of a token without the space around it, if that is anything. -/
theorem FeedSettings.usableToken_eq_some_iff {settings : FeedSettings} {own : String} :
    settings.usableToken = some own ↔ settings.token.map Text.trim = some own ∧ own ≠ "" := by
  unfold usableToken
  rw [Option.filter_eq_some_iff, bne_iff_ne]

/-- Settings are for a token if their usable token is this token without the space around it. -/
theorem FeedSettings.isFor_iff_of_usableToken {settings : FeedSettings} {token own : String}
    (usable : settings.usableToken = some own) :
    settings.isFor token = true ↔ own = Text.trim token := by
  unfold isFor
  rw [(usableToken_eq_some_iff.mp usable).1, beq_iff_eq, Option.some.injEq]

namespace Feed

open Cache Time

variable {ε : Type}

/-- A call for a feed, and the world that it leaves. -/
structure Visit (ε : Type) where
  call : Call
  after : World ε

/-- The call for a feed with some settings in a world. -/
def visit (outside : Outside ε) (place : Place) (settings : FeedSettings) (world : World ε) :
    Visit ε :=
  let program := load settings place.store
  let result := program.run outside world
  ⟨⟨settings, program.events outside world, result.1⟩, result.2⟩

/-- The calls of services with some settings that share a place. Apart from the place each call
finds a world of its own, so nothing is assumed about clock and network between two calls. -/
def visits (outside : Outside ε) (place : Place) :
    List (FeedSettings × World ε) → World ε → List (Visit ε)
  | [], _ => []
  | (settings, world) :: rest, shared =>
    let first := visit outside place settings (place.carry world shared)
    first :: visits outside place rest first.after

/-- What a call shows, and what is kept for a token after it. -/
def Visit.observed (visit : Visit ε) (place : Place) (token : String) : Call × Option Snapshot :=
  (visit.call, place.contents visit.after (keyOf (Text.trim token)))

section Steps

variable {outside : Outside ε} {place : Place} {settings : FeedSettings} {token : String}
  {first second : World ε}

/-- A call that asks for a token, if for any, shows the same where worlds are alike for the key of
the token, and leaves them alike. -/
theorem call_alike (alike : place.Alike (keyOf token) first second)
    (same : first.outside = second.outside)
    (own : ∀ used, settings.usableToken = some used → used = token) :
    (visit outside place settings first).call = (visit outside place settings second).call ∧
      place.Alike (keyOf token) (visit outside place settings first).after
        (visit outside place settings second).after := by
  obtain ⟨put, leaves, loads⟩ := load_place outside settings place first
  obtain ⟨placed, leavesSecond, loadsSecond⟩ := load_place outside settings place second
  have shown := Program.shows_events outside (load settings place.store) first
  have shownSecond := Program.shows_events outside (load settings place.store) second
  rw [← same] at shownSecond
  obtain ⟨events, results, rfl⟩ := loads.unique loadsSecond
    (fun used usable => own used usable ▸ alike.contents_eq) shown shownSecond
  refine ⟨?_, alike.of_leaves leaves leavesSecond fun used snapshot isPut => ?_⟩
  · change Call.mk settings _ _ = Call.mk settings _ _
    rw [events, results]
  · subst isPut
    obtain ⟨other, usable, rfl⟩ := loads.key_of_put
    rw [own other usable]

/-- A call that asks for tokens with keys apart leaves worlds alike. -/
theorem call_apart (alike : place.Alike (keyOf token) first second)
    (apart : ∀ used, settings.usableToken = some used → place.Apart (keyOf used) (keyOf token)) :
    place.Alike (keyOf token) (visit outside place settings first).after second := by
  obtain ⟨put, leaves, loads⟩ := load_place outside settings place first
  refine alike.of_leaves_apart leaves fun used snapshot isPut => ?_
  subst isPut
  obtain ⟨other, usable, rfl⟩ := loads.key_of_put
  exact apart other usable

end Steps

variable (outside : Outside ε)

/-- Where shared worlds are alike for the key of a token, the calls for it show the same with and
without the calls for other tokens, if the keys of these are apart. -/
theorem observed_of_alike {place : Place} {token : String}
    (attempts : List (FeedSettings × World ε)) {shared other : World ε}
    (alike : place.Alike (keyOf (Text.trim token)) shared other)
    (apart : ∀ attempt ∈ attempts, ∀ used, attempt.1.usableToken = some used →
      used ≠ Text.trim token → place.Apart (keyOf used) (keyOf (Text.trim token))) :
    ((visits outside place attempts shared).filter (·.call.settings.isFor token)).map
        (·.observed place token) =
      (visits outside place (attempts.filter (·.1.isFor token)) other).map
        (·.observed place token) := by
  induction attempts generalizing shared other with
  | nil => rfl
  | cons attempt rest inductionHypothesis =>
    obtain ⟨settings, world⟩ := attempt
    obtain ⟨apartFirst, apartRest⟩ := List.forall_mem_cons.mp apart
    rw [visits, List.filter_cons, List.filter_cons]
    change (if settings.isFor token = true then _ else _ : List (Visit ε)).map _ =
      (visits outside place (if settings.isFor token = true then _ else _) other).map _
    cases asks : settings.isFor token with
    | true =>
      -- The call is made in both sequences.
      have carried := alike.of_same (place.same_carry world shared) (place.same_carry world other)
      obtain ⟨calls, alikeAfter⟩ := call_alike carried (by simp)
        fun used usable => (FeedSettings.isFor_iff_of_usableToken usable).mp asks
      rw [if_pos rfl, if_pos rfl, visits, List.map_cons, List.map_cons,
        inductionHypothesis alikeAfter apartRest]
      congr 1
      unfold Visit.observed
      rw [calls, alikeAfter.contents_eq]
    | false =>
      -- The call is left out of the second sequence, whose shared world stays.
      rw [if_neg Bool.false_ne_true, if_neg Bool.false_ne_true]
      have carried := alike.of_same (place.same_carry world shared) (place.same_refl other)
      refine inductionHypothesis (call_apart carried fun used usable => ?_) apartRest
      refine apartFirst used usable fun same => ?_
      rw [(FeedSettings.isFor_iff_of_usableToken usable).mpr same] at asks
      cases asks

/-- The calls for a token show the same, and find the same kept for the token after them, as if the
calls for other tokens had not been made: always in memory, and in a directory in which none of
these has a key with the fingerprint of the key of the token. -/
theorem calls_without_others (attempts : List (FeedSettings × World ε)) (shared : World ε)
    (token : String) :
    let independent := fun place : Place =>
      ((visits outside place attempts shared).filter (·.call.settings.isFor token)).map
          (·.observed place token) =
        (visits outside place (attempts.filter (·.1.isFor token)) shared).map
          (·.observed place token)
    independent .memory ∧
    ∀ directory, Available directory (keyOf (Text.trim token)) shared.disk →
      (∀ attempt ∈ attempts, ∀ other, attempt.1.usableToken = some other →
        fingerprint (keyOf other) = fingerprint (keyOf (Text.trim token)) →
        other = Text.trim token) →
      independent (.files directory) := by
  intro independent
  refine ⟨observed_of_alike outside attempts rfl ?_, fun directory available known => ?_⟩
  · exact fun attempt _ used _ different same => different (keyOf_injective same)
  · refine observed_of_alike outside attempts ⟨available, available, ⟨rfl, rfl⟩, rfl⟩ ?_
    exact fun attempt member used usable different same =>
      different (known attempt member used usable same)

/-- Two calls for a token, the second with blanks around it, and a call for another one between them
that share a directory which is made by the first. -/
theorem calls_without_others_between :
    let place : Place := .files ⟨"cache"⟩
    let shared := worldAt .epoch
    let attempts : List (FeedSettings × World Instant) :=
      [({ token := some "t" }, worldAt .epoch), ({ token := some "u" }, worldAt .epoch),
        ({ token := some " t" }, worldAt ⟨29, 0, by decide⟩)]
    let remaining := attempts.filter (·.1.isFor "t")
    remaining = attempts.eraseIdx 1 ∧
      ((visits emptyNetwork place attempts shared).filter (·.call.settings.isFor "t")).map
          (·.observed place "t") =
        (visits emptyNetwork place remaining shared).map (·.observed place "t") := by
  intro place shared attempts remaining
  have trimmed : Text.trim "t" = "t" := by decide
  have available : Available ⟨"cache"⟩ (keyOf (Text.trim "t")) shared.disk := by
    refine ⟨eq_ok_of_toOption (by decide +kernel), fun empty => absurd empty (by decide), ?_⟩
    decide +kernel
  have known : ∀ attempt ∈ attempts, ∀ other, attempt.1.usableToken = some other →
      fingerprint (keyOf other) = fingerprint (keyOf (Text.trim "t")) →
      other = Text.trim "t" := by
    have tokens : ∀ attempt ∈ attempts, ∀ other ∈ attempt.1.usableToken,
        fingerprint (keyOf other) = fingerprint (keyOf "t") → other = "t" := by
      decide +kernel
    rw [trimmed]
    exact tokens
  exact ⟨rfl, (calls_without_others emptyNetwork attempts shared "t").2 _ available known⟩

end Feed
end QuizFeed
