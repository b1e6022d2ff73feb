import QuizFeed.Proofs.Feed.Loading

/-!
# Calls for feeds

A call is one attempt at loading a feed, with everything that happened outside during it. `Calls`
puts calls after one another through the contents that one leaves to the next.
`Calls.refreshed_of_kept` traces a snapshot back to the call that downloaded it: no later call
downloaded a feed for the same token.
-/

namespace QuizFeed.Feed

open Time Cache

/-- An attempt at loading a feed: its settings, its events and its result. -/
structure Call where
  settings : FeedSettings
  events : List Event
  result : Except LoadFailure Feed

namespace Call

/-- The call downloaded a feed, and read the clock at `finish` afterwards. -/
def Downloaded (call : Call) (feed : Feed) (finish : Instant) : Prop :=
  call.result = .ok feed ∧
    ∃ start url reply, call.events = [.reading start, .request url reply, .reading finish]

/-- The call reads the clock first, at an instant. -/
def StartsAt (call : Call) (start : Instant) : Prop :=
  call.events.head? = some (.reading start)

/-- The number of downloads of a call. -/
def requests (call : Call) : Nat :=
  (call.events.filter Event.isRequest).length

/-- The call downloaded the feed of a token. -/
def Refreshes (call : Call) (token : String) : Prop :=
  call.settings.usableToken = some token ∧ ∃ feed finish, call.Downloaded feed finish

end Call

/-- Events of which the second of three is a download, with the instants of the others. -/
theorem exists_download {events : List Event} {start finish : Instant}
    (kinds : events.map Event.isRequest = [false, true, false])
    (instants : events.filterMap Event.instant? = [start, finish]) :
    ∃ url reply, events = [.reading start, .request url reply, .reading finish] := by
  obtain ⟨first, others, rfl, isFirst, kinds⟩ := List.map_eq_cons_iff.mp kinds
  obtain ⟨second, more, rfl, isSecond, kinds⟩ := List.map_eq_cons_iff.mp kinds
  obtain ⟨third, none, rfl, isThird, kinds⟩ := List.map_eq_cons_iff.mp kinds
  obtain rfl := List.map_eq_nil_iff.mp kinds
  cases first <;> cases isFirst
  cases second <;> cases isSecond
  cases third <;> cases isThird
  cases instants
  exact ⟨_, _, rfl⟩

variable {settings : FeedSettings} {before after : Contents} {events : List Event}
  {result : Except LoadFailure Feed} {put : Option (String × Snapshot)} {token : String}

/-- A call puts the feed that it downloaded under the key of its token, and leaves what is under
the keys of other tokens. -/
theorem Loads.refreshes_or_keeps (loads : Loads settings before events result put)
    (token : String) :
    (settings.usableToken = some token ∧
      ∃ feed finish expiry, (Call.mk settings events result).Downloaded feed finish ∧
        finish.later? lifetime = some expiry ∧
        before.update put (keyOf token) = some ⟨feed, expiry⟩) ∨
    (¬ (Call.mk settings events result).Refreshes token ∧
      before.update put (keyOf token) = before (keyOf token)) := by
  cases loads with
  | unauthorised | served | failed | unlimited =>
    refine .inr ⟨?_, rfl⟩
    rintro ⟨-, feed, finish, answered, start, url, reply, happened⟩
    cases answered <;> cases happened
  | @downloaded own start reply value finish expiry usable _ _ limited =>
    by_cases same : own = token
    · subst same
      exact .inl ⟨usable, _, finish, expiry, ⟨rfl, start, _, reply, rfl⟩, limited,
        Contents.put_same ..⟩
    · refine .inr ⟨?_, Contents.put_other _ _ fun equal => same (keyOf_injective equal).symm⟩
      rintro ⟨other, -⟩
      rw [usable] at other
      exact same (Option.some.inj other)

/-- A call for a token with a snapshot in store reads the clock first: the snapshot is served while
it is fresh, and else there is one download. -/
theorem Loads.of_kept {snapshot : Snapshot} (loads : Loads settings before events result put)
    (usable : settings.usableToken = some token)
    (kept : before (keyOf token) = some snapshot) :
    ∃ start, events.head? = some (.reading start) ∧
      (snapshot.isFresh start = true →
        events = [.reading start] ∧ result = .ok snapshot.feed ∧ put = none) ∧
      (snapshot.isFresh start = false → (events.filter Event.isRequest).length = 1) := by
  cases loads with
  | unauthorised absent =>
    rw [absent] at usable
    cases usable
  | @served own start other usableOwn keptOwn fresh =>
    obtain rfl := Option.some.inj (usableOwn.symm.trans usable)
    obtain rfl := Option.some.inj (keptOwn.symm.trans kept)
    refine ⟨start, rfl, fun _ => ⟨rfl, rfl, rfl⟩, fun stale => ?_⟩
    rw [fresh] at stale
    cases stale
  | @failed own start _ _ usableOwn stale | @unlimited own start _ _ _ usableOwn stale
  | @downloaded own start _ _ _ _ usableOwn stale =>
    obtain rfl := Option.some.inj (usableOwn.symm.trans usable)
    refine ⟨start, rfl, fun fresh => ?_, fun _ => rfl⟩
    rw [stale snapshot kept] at fresh
    cases fresh

/-- A call for a token reads the clock first. -/
theorem Loads.starts (loads : Loads settings before events result put)
    (usable : settings.usableToken = some token) :
    ∃ start, events.head? = some (.reading start) := by
  cases loads with
  | unauthorised absent =>
    rw [absent] at usable
    cases usable
  | served | failed | unlimited | downloaded => exact ⟨_, rfl⟩

/-- What is put is put under the key of the token. -/
theorem Loads.key_of_put {key : String} {snapshot : Snapshot}
    (loads : Loads settings before events result (some (key, snapshot))) :
    ∃ token, settings.usableToken = some token ∧ key = keyOf token := by
  cases loads with
  | @downloaded token _ _ _ _ _ usable => exact ⟨token, usable, rfl⟩

/-- What is put was downloaded. -/
theorem Loads.downloaded_of_put {key : String} {snapshot : Snapshot}
    (loads : Loads settings before events result (some (key, snapshot))) :
    ∃ finish, (Call.mk settings events result).Downloaded snapshot.feed finish ∧
      finish.later? lifetime = some snapshot.expiry := by
  cases loads with
  | @downloaded _ start reply _ finish _ _ _ _ limited =>
    exact ⟨finish, ⟨rfl, start, _, reply, rfl⟩, limited⟩

/-- A call that downloads a feed puts it, with an expiry that is counted from the end of the
download. -/
theorem Loads.put_of_downloaded (loads : Loads settings before events result put)
    (usable : settings.usableToken = some token) {feed : Feed} {finish : Instant}
    (downloaded : (Call.mk settings events result).Downloaded feed finish) :
    ∃ expiry, finish.later? lifetime = some expiry ∧
      put = some (keyOf token, ⟨feed, expiry⟩) := by
  obtain ⟨answered, start, url, reply, happened⟩ := downloaded
  cases loads with
  | unauthorised | served | failed | unlimited => cases answered <;> cases happened
  | @downloaded own _ _ _ _ expiry usableOwn _ _ limited =>
    cases answered
    cases happened
    obtain rfl := Option.some.inj (usableOwn.symm.trans usable)
    exact ⟨expiry, limited, rfl⟩

/-- Calls one after the other, each with the contents that the one before it leaves. -/
inductive Calls : Contents → List Call → Contents → Prop where
  | nil {contents} : Calls contents [] contents
  | cons {before after settings events result put rest}
      (first : Loads settings before events result put)
      (others : Calls (before.update put) rest after) :
      Calls before (⟨settings, events, result⟩ :: rest) after

/-- Calls in two parts meet at some contents. -/
theorem Calls.split {earlier later : List Call} (calls : Calls before (earlier ++ later) after) :
    ∃ middle, Calls before earlier middle ∧ Calls middle later after := by
  induction earlier generalizing before with
  | nil => exact ⟨before, .nil, calls⟩
  | cons call rest inductionHypothesis =>
    cases calls with
    | cons first others =>
      obtain ⟨middle, start, finish⟩ := inductionHypothesis others
      exact ⟨middle, .cons first start, finish⟩

/-- What is under the key of a token after some calls was there before them and none of them
downloaded it, or the last one that did put it there. -/
theorem Calls.refreshed_of_kept {list : List Call} (calls : Calls before list after)
    {snapshot : Snapshot} (kept : after (keyOf token) = some snapshot) :
    (before (keyOf token) = some snapshot ∧ ∀ call ∈ list, ¬ call.Refreshes token) ∨
    ∃ older source newer finish, list = older ++ source :: newer ∧
      source.settings.usableToken = some token ∧ source.Downloaded snapshot.feed finish ∧
      finish.later? lifetime = some snapshot.expiry ∧
      ∀ call ∈ newer, ¬ call.Refreshes token := by
  induction calls with
  | nil => exact .inl ⟨kept, fun call member => absurd member List.not_mem_nil⟩
  | @cons _ _ settings events result _ rest first others inductionHypothesis =>
    rcases inductionHypothesis kept with ⟨present, silent⟩ | found
    · rcases first.refreshes_or_keeps token with
        ⟨usable, feed, finish, expiry, downloaded, limited, kept⟩ | ⟨quiet, same⟩
      · rw [kept] at present
        cases present
        exact .inr ⟨[], _, rest, finish, rfl, usable, downloaded, limited, silent⟩
      · refine .inl ⟨same ▸ present, fun call member => ?_⟩
        rcases List.mem_cons.mp member with rfl | inside
        · exact quiet
        · exact silent call inside
    · obtain ⟨older, source, newer, finish, rfl, rest⟩ := found
      exact .inr ⟨_ :: older, source, newer, finish, rfl, rest⟩

end QuizFeed.Feed
