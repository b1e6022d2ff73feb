import QuizFeed.Proofs.Feed.Freshness

/-!
# How often a feed is downloaded

Services that share a memory call for feeds one after the other, and the clock never goes back. The
feed of a token that one call downloads is kept while the calls for the token start in time
(`Calls.kept_while`), whatever is called for other tokens in between; so it is downloaded once in
half a minute (`request_rate`). A download that fails leaves nothing behind that could be served
later (`Loads.stale_of_failed`).
-/

namespace QuizFeed

namespace Time.Instant

/-- What is not before an earlier instant is not before what lies behind it. -/
theorem precedes_of_not_precedes {earlier later last : Instant}
    (inOrder : later.precedes earlier = false) (before : later.precedes last = true) :
    earlier.precedes last = true := by
  simp only [precedes, Bool.or_eq_false_iff, Bool.or_eq_true, Bool.and_eq_false_iff,
    Bool.and_eq_true, decide_eq_false_iff_not, decide_eq_true_eq, beq_eq_false_iff_ne,
    beq_iff_eq] at inOrder before ⊢
  omega

end Time.Instant

namespace Feed

open Time Cache

section Steps

variable {settings : FeedSettings} {before after : Contents} {events : List Event}
  {result : Except LoadFailure Feed} {put : Option (String × Snapshot)} {token : String}
  {start next : Instant}

/-- What is not served at an instant is not served later. -/
theorem IsStale.afterwards (stale : IsStale before token start)
    (inOrder : next.precedes start = false) : IsStale before token next := by
  intro snapshot kept
  have expired := stale snapshot kept
  rw [Bool.eq_false_iff] at expired ⊢
  exact fun fresh => expired (Instant.precedes_of_not_precedes inOrder fresh)

/-- A call for a token downloads once when no snapshot can be served. -/
theorem Loads.requests_of_stale (loads : Loads settings before events result put)
    (usable : settings.usableToken = some token)
    (starts : (Call.mk settings events result).StartsAt start)
    (stale : IsStale before token start) : (Call.mk settings events result).requests = 1 := by
  cases loads with
  | unauthorised absent =>
    rw [absent] at usable
    cases usable
  | @served own _ snapshot usableOwn kept fresh =>
    obtain rfl := Option.some.inj (usableOwn.symm.trans usable)
    cases starts
    rw [stale snapshot kept] at fresh
    cases fresh
  | failed | unlimited | downloaded => rfl

/-- A call for a token whose download does not give a feed found no snapshot to serve, and puts
none. -/
theorem Loads.stale_of_failed {failure : LoadFailure}
    (loads : Loads settings before events (.error failure) put)
    (usable : settings.usableToken = some token)
    (starts : (Call.mk settings events (.error failure)).StartsAt start) :
    IsStale before token start ∧ put = none := by
  cases loads with
  | unauthorised absent =>
    rw [absent] at usable
    cases usable
  | @failed own _ _ _ usableOwn stale | @unlimited own _ _ _ _ usableOwn stale =>
    obtain rfl := Option.some.inj (usableOwn.symm.trans usable)
    cases starts
    exact ⟨stale, rfl⟩

end Steps

section Runs

variable {before after : Contents} {token : String} {between : List Call}

/-- Calls for other tokens leave what is kept for a token. -/
theorem Calls.unchanged (calls : Calls before between after)
    (others : ∀ call ∈ between, call.settings.usableToken ≠ some token) :
    after (keyOf token) = before (keyOf token) := by
  induction calls with
  | nil => rfl
  | cons first rest inductionHypothesis =>
    obtain ⟨other, othersRest⟩ := List.forall_mem_cons.mp others
    rw [inductionHypothesis othersRest]
    rcases first.refreshes_or_keeps token with ⟨usable, _⟩ | ⟨_, same⟩
    · exact absurd usable other
    · exact same

/-- A snapshot is kept while the calls for its token start before it expires. -/
theorem Calls.kept_while {snapshot : Snapshot} (calls : Calls before between after)
    (kept : before (keyOf token) = some snapshot)
    (early : ∀ call ∈ between, call.settings.usableToken = some token →
      ∀ start, call.StartsAt start → snapshot.isFresh start = true) :
    after (keyOf token) = some snapshot := by
  induction calls with
  | nil => exact kept
  | @cons _ _ _ _ _ put _ first rest inductionHypothesis =>
    obtain ⟨earlyFirst, earlyRest⟩ := List.forall_mem_cons.mp early
    refine inductionHypothesis ?_ earlyRest
    rcases first.refreshes_or_keeps token with ⟨usable, _⟩ | ⟨_, same⟩
    · obtain ⟨start, starts, served, _⟩ := first.of_kept usable kept
      obtain ⟨_, _, rfl⟩ := served (earlyFirst usable start starts)
      exact kept
    · exact same.trans kept

/-- Two calls of a sequence, with what was kept before each and the calls between them. -/
theorem Calls.split_twice {earlier later : List Call} {first second : Call}
    (calls : Calls before (earlier ++ first :: between ++ second :: later) after) :
    ∃ start middle put placed, Loads first.settings start first.events first.result put ∧
      Calls (start.update put) between middle ∧
      Loads second.settings middle second.events second.result placed := by
  obtain ⟨middle, past, present⟩ := calls.split
  obtain ⟨start, _, now⟩ := past.split
  cases now with
  | cons loads others =>
    cases present with
    | cons loadsSecond _ => exact ⟨start, middle, _, _, loads, others, loadsSecond⟩

/-- The clock readings of calls never go back. -/
def Steady (calls : List Call) : Prop :=
  (calls.flatMap fun call => call.events.filterMap Event.instant?).Pairwise
    fun earlier later => later.precedes earlier = false

/-- The instant at which a call starts is one that it reads. -/
theorem Call.StartsAt.mem {call : Call} {start : Instant} (starts : call.StartsAt start) :
    start ∈ call.events.filterMap Event.instant? :=
  List.mem_filterMap.mpr ⟨.reading start, List.mem_of_head? starts, rfl⟩

/-- Calls start in their order. -/
theorem Steady.in_order {earlier later : List Call} {first second : Call} {start next : Instant}
    (steady : Steady (earlier ++ second :: later)) (member : first ∈ earlier)
    (starts : first.StartsAt start) (startsNext : second.StartsAt next) :
    next.precedes start = false := by
  have pairs := (List.pairwise_flatMap.mp steady).2
  exact (List.pairwise_append.mp pairs).2.2 first member second List.mem_cons_self
    start starts.mem next startsNext.mem

end Runs

section Window

variable {before after : Contents} {token : String} {earlier between later : List Call}
  {first second : Call} {feed : Feed} {finish : Instant}

/-- A call that downloads makes one request. -/
theorem Call.requests_of_downloaded {call : Call} (downloaded : call.Downloaded feed finish) :
    call.requests = 1 := by
  obtain ⟨_, start, url, reply, happened⟩ := downloaded
  unfold Call.requests
  rw [happened]
  rfl

/-- The window of a download: a later call for the token is served with the feed while the window
lasts, and the first one behind it downloads once. -/
theorem Calls.served_in_window
    (calls : Calls before (earlier ++ first :: between ++ second :: later) after)
    (steady : Steady (earlier ++ first :: between ++ second :: later))
    (usable : first.settings.usableToken = some token) (downloaded : first.Downloaded feed finish)
    (usableSecond : second.settings.usableToken = some token) :
    ∃ expiry start, finish.later? 30 = some expiry ∧ second.StartsAt start ∧
      (start.precedes expiry = true → second.requests = 0 ∧ second.result = .ok feed) ∧
      (start.precedes expiry = false →
        (∀ other ∈ between, other.settings.usableToken = some token →
          ∀ next, other.StartsAt next → next.precedes expiry = true) →
        second.requests = 1) := by
  obtain ⟨contents, middle, put, placed, loads, past, loadsSecond⟩ := calls.split_twice
  obtain ⟨expiry, limited, rfl⟩ := loads.put_of_downloaded usable downloaded
  obtain ⟨start, starts⟩ := loadsSecond.starts usableSecond
  have kept : contents.update (some (keyOf token, ⟨feed, expiry⟩)) (keyOf token) =
      some ⟨feed, expiry⟩ := Contents.put_same ..
  have served := fun early => loadsSecond.of_kept usableSecond (past.kept_while kept early)
  refine ⟨expiry, start, limited, starts, fun inside => ?_, fun behind early => ?_⟩
  · -- The clock never goes back, so the calls in between start before the expiry as well.
    obtain ⟨same, startsSame, answered, _⟩ := served fun other member _ next startsOther =>
      Instant.precedes_of_not_precedes (steady.in_order (by simp [member]) startsOther starts)
        inside
    obtain rfl : start = same := by simpa [starts] using startsSame
    obtain ⟨happened, result, _⟩ := answered inside
    unfold Call.requests
    rw [happened]
    exact ⟨rfl, result⟩
  · obtain ⟨same, startsSame, _, downloads⟩ := served early
    obtain rfl : start = same := by simpa [starts] using startsSame
    exact downloads behind

/-- A failure starts no window: the next call for the token downloads. -/
theorem Calls.requests_after_failure {failure : LoadFailure}
    (calls : Calls before (earlier ++ first :: between ++ second :: later) after)
    (steady : Steady (earlier ++ first :: between ++ second :: later))
    (usable : first.settings.usableToken = some token) (failed : first.result = .error failure)
    (others : ∀ other ∈ between, other.settings.usableToken ≠ some token)
    (usableSecond : second.settings.usableToken = some token) : second.requests = 1 := by
  obtain ⟨contents, middle, put, placed, loads, past, loadsSecond⟩ := calls.split_twice
  obtain ⟨start, starts⟩ := loads.starts usable
  obtain ⟨next, startsNext⟩ := loadsSecond.starts usableSecond
  rw [failed] at loads
  obtain ⟨stale, rfl⟩ := loads.stale_of_failed usable starts
  refine loadsSecond.requests_of_stale usableSecond startsNext ?_
  have inOrder : next.precedes start = false := steady.in_order (by simp) starts startsNext
  intro snapshot found
  rw [past.unchanged others] at found
  exact stale.afterwards inOrder snapshot found

end Window

variable {ε : Type} (outside : Outside ε)

/-- How often a feed is downloaded by calls that share a memory, while the clock never goes back. A
feed that was downloaded for a token is what every call for it gives, without a download, that
starts before half a minute has passed since the end of that download; the first one that starts
later downloads once. After a failure the next call for the token downloads again. Between two
downloads that give a feed for the same token there is half a minute. -/
theorem request_rate (attempts : List (FeedSettings × World ε))
    (memory : List (String × Snapshot)) (steady : Steady (callsOf outside attempts memory))
    (earlier between later : List Call) (first second : Call)
    (made : callsOf outside attempts memory = earlier ++ first :: between ++ second :: later)
    (token : String) (usable : first.settings.usableToken = some token)
    (usableSecond : second.settings.usableToken = some token) :
    (∀ feed finish, first.Downloaded feed finish →
      ∃ expiry start, finish.later? 30 = some expiry ∧ second.StartsAt start ∧
        (start.precedes expiry = true → second.requests = 0 ∧ second.result = .ok feed) ∧
        (start.precedes expiry = false →
          (∀ other ∈ between, other.settings.usableToken = some token →
            ∀ next, other.StartsAt next → next.precedes expiry = true) →
          second.requests = 1) ∧
        ∀ again last, second.Downloaded again last → start.precedes expiry = false) ∧
    (∀ failure, first.result = .error failure →
      (∀ other ∈ between, other.settings.usableToken ≠ some token) → second.requests = 1) := by
  obtain ⟨after, calls⟩ := calls_callsOf outside attempts memory
  rw [made] at calls steady
  refine ⟨fun feed finish downloaded => ?_, fun failure failed others => ?_⟩
  · obtain ⟨expiry, start, limited, starts, inside, behind⟩ :=
      calls.served_in_window steady usable downloaded usableSecond
    refine ⟨expiry, start, limited, starts, inside, behind, fun again last downloadedAgain => ?_⟩
    have once := Call.requests_of_downloaded downloadedAgain
    cases before : start.precedes expiry with
    | false => rfl
    | true =>
      rw [(inside before).1] at once
      cases once
  · exact calls.requests_after_failure steady usable failed others usableSecond

/-- A clock that shows the state of the outside, and a network that is down until then. -/
def recoveringNetwork (recovery : Instant) : Outside Instant where
  now instant := (instant, instant)
  fetch _ instant :=
    (if instant.precedes recovery then .error ⟨.network, "down"⟩ else .ok "[]".toUTF8, instant)

/-- The network is down for a first call; a second one downloads, and a third one half a minute
later, but for a millisecond, reuses the feed. -/
theorem request_rate_recovered :
    let second : Instant := ⟨1, 0, by decide⟩
    let third : Instant := ⟨30, 999000000, by decide⟩
    let attempts : List (FeedSettings × World Instant) :=
      [({ token := some "t" }, worldAt .epoch), ({ token := some " t" }, worldAt second),
        ({ token := some "t" }, worldAt third)]
    let calls := callsOf (recoveringNetwork second) attempts []
    Steady calls ∧ calls[0].result = .error (.transport ⟨.network, "down"⟩) ∧
      calls[1].requests = 1 ∧ calls[1].Downloaded .empty second ∧
      calls[2].requests = 0 ∧ calls[2].result = .ok .empty := by
  intro second third attempts calls
  have steady : Steady calls := by
    have readings : (calls.flatMap fun call => call.events.filterMap Event.instant?) =
        [.epoch, second, second, third] := by decide +kernel
    unfold Steady
    rw [readings]
    decide
  have usable : ∀ call ∈ calls, call.settings.usableToken = some "t" := by decide
  have failed : calls[0].result = .error (.transport ⟨.network, "down"⟩) := by rfl
  have downloaded : calls[1].Downloaded .empty second := by
    obtain ⟨url, reply, happened⟩ := exists_download
      (show calls[1].events.map Event.isRequest = _ by decide +kernel)
      (show calls[1].events.filterMap Event.instant? = [second, second] by decide +kernel)
    exact ⟨eq_ok_of_toOption (by decide +kernel), second, url, reply, happened⟩
  have again :=
    (request_rate (recoveringNetwork second) attempts [] steady [] [] _ calls[0] calls[1]
      rfl "t" (usable _ (by simp)) (usable _ (by simp))).2 _ failed (by simp)
  obtain ⟨expiry, start, limited, starts, inside, _⟩ :=
    (request_rate (recoveringNetwork second) attempts [] steady [_] [] [] calls[1] calls[2]
      rfl "t" (usable _ (by simp)) (usable _ (by simp))).1 _ _ downloaded
  have reused : start.precedes expiry = true := by
    have first : calls[2].events.head?.bind Event.instant? = some third := by decide
    have last : second.later? 30 = some ⟨31, 0, by decide⟩ := by decide
    rw [starts] at first
    rw [last] at limited
    cases first
    cases limited
    decide
  exact ⟨steady, failed, again, downloaded, inside reused⟩

end Feed
end QuizFeed
