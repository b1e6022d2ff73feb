import QuizFeed.Proofs.Feed.Calls

/-!
# Where served feeds come from

Services that share a memory call for feeds one after the other. Every feed that they hand out was
downloaded by the call itself, or the call asked for nothing and the feed is what the last download
for the same token left, less than half a minute before.
-/

namespace QuizFeed.Feed

open Time Cache

variable {ε : Type} (outside : Outside ε)

/-- The calls of services with some settings that share a memory. Each call finds a world of its
own, so nothing is assumed about clock and network between two calls. -/
def callsOf : List (FeedSettings × World ε) → List (String × Snapshot) → List Call
  | [], _ => []
  | (settings, world) :: rest, memory =>
    let program := load settings memoryStore
    let start := { world with memory := memory }
    ⟨settings, program.events outside start, (program.run outside start).1⟩ ::
      callsOf rest (program.run outside start).2.memory

/-- Calls that share a memory follow one another. -/
theorem calls_callsOf (attempts : List (FeedSettings × World ε))
    (memory : List (String × Snapshot)) :
    ∃ after, Calls (memoryContents memory) (callsOf outside attempts memory) after := by
  induction attempts generalizing memory with
  | nil => exact ⟨_, .nil⟩
  | cons attempt rest inductionHypothesis =>
    obtain ⟨settings, world⟩ := attempt
    have keeps := memoryStore_keeps outside
    obtain ⟨put, leaves, loads⟩ := load_loads settings { world with memory := memory }
      keeps.toReads (fun _ _ => trivial) rfl
    have held := keeps.holds_of_leaves (fun _ _ _ => trivial) leaves
    obtain ⟨after, others⟩ := inductionHypothesis _
    rw [held] at others
    exact ⟨after, .cons loads others⟩

namespace Call

/-- The feed is the projection of what the call downloaded once, from its own address. -/
def IsFirstHand (call : Call) (feed : Feed) : Prop :=
  ∃ start address body value finish,
    call.settings.address = some address ∧
    call.events = [.reading start, .request address (.ok body), .reading finish] ∧
    Json.read body.data.toList = .ok value ∧
    feed = (Projection.ofValue call.settings.titleStart value).feed

/-- The call downloaded nothing, and the feed is the one of the last earlier call that downloaded
for the token. The call began before half a minute had passed since the end of that download. -/
def IsReuse (call : Call) (earlier : List Call) (token : String) (feed : Feed) : Prop :=
  ∃ start older source newer finish expiry,
    call.events = [.reading start] ∧
    earlier = older ++ source :: newer ∧
    source.settings.usableToken = some token ∧
    source.Downloaded feed finish ∧
    (∀ between ∈ newer, ¬ between.Refreshes token) ∧
    finish.later? lifetime = some expiry ∧
    start.precedes expiry = true

end Call

/-- Every feed that is handed out was downloaded by the call itself, or it is reused for the same
token within half a minute of its download. -/
theorem served_feeds (attempts : List (FeedSettings × World ε)) (earlier later : List Call)
    (call : Call) (made : callsOf outside attempts [] = earlier ++ call :: later) (feed : Feed)
    (served : call.result = .ok feed) :
    ∃ token, call.settings.usableToken = some token ∧
      (call.IsFirstHand feed ∨ call.IsReuse earlier token feed) := by
  obtain ⟨after, calls⟩ := calls_callsOf outside attempts []
  rw [made] at calls
  obtain ⟨middle, past, present⟩ := calls.split
  cases present with
  | cons first others =>
    cases first with
    | unauthorised | failed | unlimited => cases served
    | @served token start snapshot usable kept fresh =>
      cases served
      refine ⟨token, usable, .inr ?_⟩
      rcases past.refreshed_of_kept kept with ⟨initial, -⟩ | found
      · cases initial
      · obtain ⟨older, source, newer, finish, split, same, downloaded, limited, last⟩ := found
        exact ⟨start, older, source, newer, finish, snapshot.expiry, rfl, split, same, downloaded,
          last, limited, fresh⟩
    | @downloaded token start reply value finish expiry usable stale good limited =>
      cases served
      refine ⟨token, usable, .inl ?_⟩
      obtain ⟨body, rfl, read⟩ := valueOfReply_eq_ok good
      refine ⟨start, _, body, value, finish, ?_, rfl, read, rfl⟩
      simp [FeedSettings.address, usable]

/-- A clock that shows the state of the outside, and a network that answers with an empty list. -/
def emptyNetwork : Outside Instant where
  now instant := (instant, instant)
  fetch _ instant := (.ok "[]".toUTF8, instant)

/-- A world at some instant. -/
def worldAt (instant : Instant) : World Instant :=
  ⟨⟨[], [], []⟩, [], [], [], instant⟩

/-- A second call half a minute later, but for a millisecond, reuses the feed, for a token that
looks different before it is trimmed. -/
theorem served_feeds_reused :
    let nearly : Instant := ⟨29, 999000000, by decide⟩
    let attempts : List (FeedSettings × World Instant) :=
      [({ token := some " t" }, worldAt .epoch), ({ token := some "t" }, worldAt nearly)]
    ∃ first second, callsOf emptyNetwork attempts [] = [first] ++ second :: [] ∧
      second.result = .ok .empty ∧
      ∃ token, second.settings.usableToken = some token ∧ second.IsReuse [first] token .empty := by
  intro nearly attempts
  let second := (callsOf emptyNetwork attempts [])[1]
  have answered : second.result = .ok .empty := eq_ok_of_toOption (by decide +kernel)
  have single : second.events.length = 1 := by decide +kernel
  obtain ⟨token, usable, firstHand | reused⟩ :=
    served_feeds emptyNetwork attempts [_] [] second rfl .empty answered
  · -- A call that downloads has a request between two readings of the clock.
    obtain ⟨start, address, body, value, finish, -, events, -, -⟩ := firstHand
    rw [events] at single
    cases single
  · exact ⟨_, second, rfl, answered, token, usable, reused⟩

end QuizFeed.Feed
