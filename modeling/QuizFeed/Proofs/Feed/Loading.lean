import QuizFeed.Feed.Loading
import QuizFeed.Proofs.Cache.Contents
import QuizFeed.Proofs.Results

/-!
# What loading a feed can do

`Loads` lists the five ways in which a feed is asked for: what happens outside, what the answer is,
and what is put into the store. `load_loads` says that loading through any store that
keeps contents is one of them. Which one it is, is decided by what is kept for the token and by what
clock and network show (`Loads.unique`).
-/

namespace QuizFeed.Feed

open Time Cache

/-- A reply holds a value if it came and is a document. -/
theorem valueOfReply_eq_ok {reply : Fetch.Reply} {value : Json.Value}
    (good : valueOfReply reply = .ok value) :
    ∃ body, reply = .ok body ∧ Json.read body.data.toList = .ok value := by
  cases reply with
  | error failure => cases good
  | ok body =>
    simp only [valueOfReply] at good
    split at good
    · rename_i read
      cases good
      exact ⟨body, rfl, read⟩
    · cases good

/-- No snapshot of a token is served at an instant. -/
def IsStale (contents : Contents) (token : String) (now : Instant) : Prop :=
  ∀ snapshot, contents (keyOf token) = some snapshot → snapshot.isFresh now = false

/-- What asking for a feed does: the settings and the contents before, the events, the result, and
what is put into the store. -/
inductive Loads (settings : FeedSettings) (contents : Contents) :
    List Event → Except LoadFailure Feed → Option (String × Snapshot) → Prop where
  | unauthorised (absent : settings.usableToken = none) :
      Loads settings contents [] (.error .missingToken) none
  | served {token start snapshot}
      (usable : settings.usableToken = some token)
      (kept : contents (keyOf token) = some snapshot)
      (fresh : snapshot.isFresh start = true) :
      Loads settings contents [.reading start] (.ok snapshot.feed) none
  | failed {token start reply failure}
      (usable : settings.usableToken = some token)
      (stale : IsStale contents token start)
      (bad : valueOfReply reply = .error failure) :
      Loads settings contents [.reading start, .request (settings.addressFor token) reply]
        (.error failure) none
  | unlimited {token start reply value finish}
      (usable : settings.usableToken = some token)
      (stale : IsStale contents token start)
      (good : valueOfReply reply = .ok value)
      (last : finish.later? lifetime = none) :
      Loads settings contents
        [.reading start, .request (settings.addressFor token) reply, .reading finish]
        (.error .expiryOutOfRange) none
  | downloaded {token start reply value finish expiry}
      (usable : settings.usableToken = some token)
      (stale : IsStale contents token start)
      (good : valueOfReply reply = .ok value)
      (limited : finish.later? lifetime = some expiry) :
      Loads settings contents
        [.reading start, .request (settings.addressFor token) reply, .reading finish]
        (.ok (Projection.ofValue settings.titleStart value).feed)
        (some (keyOf token, ⟨(Projection.ofValue settings.titleStart value).feed, expiry⟩))

/-- A failure to read a reply is one of the transport or of the document. -/
def LoadFailure.OfReply : LoadFailure → Prop
  | transport _ | malformed _ _ => True
  | missingToken | expiryOutOfRange => False

/-- A reply without a value is a failure of the reply. -/
theorem ofReply_of_valueOfReply {reply : Fetch.Reply} {failure : LoadFailure}
    (bad : valueOfReply reply = .error failure) : failure.OfReply := by
  unfold valueOfReply at bad
  split at bad
  · cases bad
    trivial
  · split at bad <;> cases bad
    trivial

/-- Where the same is kept for the token, and clock and network show the same, asking for a feed
does the same. -/
theorem Loads.unique {ε : Type} {outside : Outside ε} {state : ε} {settings : FeedSettings}
    {contents others : Contents} {events again : List Event}
    {result answer : Except LoadFailure Feed} {put placed : Option (String × Snapshot)}
    (first : Loads settings contents events result put)
    (second : Loads settings others again answer placed)
    (same : ∀ token, settings.usableToken = some token →
      contents (keyOf token) = others (keyOf token))
    (shown : outside.Shows state events) (shownAgain : outside.Shows state again) :
    events = again ∧ result = answer ∧ put = placed := by
  cases first with
  | unauthorised absent =>
    cases second with
    | unauthorised => exact ⟨rfl, rfl, rfl⟩
    | served usable | failed usable | unlimited usable | downloaded usable =>
      rw [absent] at usable
      cases usable
  | served usable kept fresh =>
    -- The same snapshot is found, and the clock shows the same instant.
    cases second <;> simp_all [Outside.Shows, IsStale]
  | failed usable stale | unlimited usable stale | downloaded usable stale =>
    -- Again nothing fresh is found, and the same reply decides.
    cases second <;> simp_all [Outside.Shows, IsStale]

section Stores

variable {ε : Type} {outside : Outside ε} {store : Store} {keys : String → Prop}
  {holds : World ε → Contents → Prop} {contents : Contents} {token : String}

/-- Keeping a feed ends a download, with or without an expiry. -/
theorem keep_loads {settings : FeedSettings} (reads : store.Reads outside keys holds)
    (usable : settings.usableToken = some token) {start : Instant}
    (stale : IsStale contents token start) {reply : Fetch.Reply} {value : Json.Value}
    (good : valueOfReply reply = .ok value) {world : World ε} (held : holds world contents) :
    let feed := (Projection.ofValue settings.titleStart value).feed
    ∃ put, store.Leaves outside holds contents ((keep store token feed).run outside world).2 put ∧
      Loads settings contents
        (.reading start :: .request (settings.addressFor token) reply ::
          (keep store token feed).events outside world)
        ((keep store token feed).run outside world).1 put := by
  intro feed
  have settled : holds { world with outside := (outside.now world.outside).2 } contents :=
    reads.settled held rfl rfl
  simp only [keep, Program.run_bind, Program.events_bind, Program.run_now, Program.events_now]
  cases limited : (outside.now world.outside).1.later? lifetime with
  | none => exact ⟨none, .same settled, .unlimited usable stale good limited⟩
  | some expiry =>
    simp only [Program.run_bind, Program.events_bind, reads.set_events, Program.run_report,
      Program.events_report, Program.run_pure, Program.events_pure, List.append_nil]
    exact ⟨some (keyOf token, ⟨feed, expiry⟩), .set settled rfl rfl,
      .downloaded usable stale good limited⟩

/-- A download behind a clock reading is one of the ways to ask for a feed. -/
theorem download_loads {settings : FeedSettings} (reads : store.Reads outside keys holds)
    (usable : settings.usableToken = some token) {start : Instant}
    (stale : IsStale contents token start) {world : World ε} (held : holds world contents) :
    ∃ put, store.Leaves outside holds contents
        ((download settings store token).run outside world).2 put ∧
      Loads settings contents
        (.reading start :: (download settings store token).events outside world)
        ((download settings store token).run outside world).1 put := by
  simp only [download, Program.run_bind, Program.events_bind, Program.run_report,
    Program.events_report, Program.run_fetch, Program.events_fetch, List.nil_append]
  cases answered : valueOfReply (outside.fetch (settings.addressFor token) world.outside).1 with
  | error failure =>
    exact ⟨none, .same (reads.settled held rfl rfl), .failed usable stale answered⟩
  | ok value =>
    simp only
    split
    · simp only [Program.run_bind, Program.events_bind, Program.run_report,
        Program.events_report, List.nil_append]
      exact keep_loads reads usable stale answered (reads.settled held rfl rfl)
    · exact keep_loads reads usable stale answered (reads.settled held rfl rfl)

/-- Loading a feed through a store that holds contents is one of the ways to ask for it. -/
theorem load_loads (settings : FeedSettings) (world : World ε)
    (reads : store.Reads outside keys holds)
    (known : ∀ token, settings.usableToken = some token → keys (keyOf token))
    (held : holds world contents) :
    ∃ put, store.Leaves outside holds contents ((load settings store).run outside world).2 put ∧
      Loads settings contents ((load settings store).events outside world)
        ((load settings store).run outside world).1 put := by
  unfold load
  cases usable : settings.usableToken with
  | none => exact ⟨none, .same held, .unauthorised usable⟩
  | some token =>
    have settled : holds { world with outside := (outside.now world.outside).2 } contents :=
      reads.settled held rfl rfl
    simp only [Program.run_bind, Program.events_bind, Program.run_now, Program.events_now,
      reads.get_events, reads.get_eq settled (known token usable), List.nil_append]
    have held := reads.get_holds settled (known token usable)
    cases found : contents (keyOf token) with
    | none =>
      simp only [Option.filter_none]
      refine download_loads reads usable ?_ held
      intro snapshot kept
      rw [found] at kept
      cases kept
    | some snapshot =>
      simp only [Option.filter_some]
      cases fresh : snapshot.isFresh (outside.now world.outside).1 with
      | true =>
        exact ⟨none, .same (reads.settled held rfl rfl), .served usable found fresh⟩
      | false =>
        refine download_loads reads usable ?_ held
        intro other kept
        rw [found] at kept
        cases kept
        exact fresh

end Stores

end QuizFeed.Feed
