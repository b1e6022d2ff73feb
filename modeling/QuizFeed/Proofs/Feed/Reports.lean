import QuizFeed.Proofs.Feed.Loading

/-!
# What a call reports

A call that keeps feeds in memory reports whether a fresh feed was there, and how a download went.
What it reports is a function of the beginning of the token and of what clock and network showed,
whatever the url was (`load_records`); no more of the token is needed to tell it.
-/

namespace QuizFeed

open Time

/-- What an event shows, whatever was asked for. -/
def Event.shown : Event → Instant ⊕ Fetch.Reply
  | reading instant => .inl instant
  | request _ reply => .inr reply

namespace Feed

open Cache

/-- The report on a feed that is kept from an instant on, if there is an expiry for it. -/
def reportsOfKeeping (feed : Feed) (finish : Instant) : List Log.Record :=
  (finish.later? lifetime).toList.map fun expiry =>
    ⟨.info, origin,
      "Cached " ++ toString feed.size ++ " feed entries until " ++ expiry.display⟩

/-- The report on entries that were left out of a feed. -/
def reportsOfSkipping (skipped : Nat) : List Log.Record :=
  if skipped > 0 then
    [⟨.debug, origin, "Skipped " ++ toString skipped ++ " invalid feed entries"⟩]
  else []

/-- What is reported after a reply came, with what is shown after it. -/
def reportsOfReply (redacted titleStart : String) (reply : Fetch.Reply)
    (rest : List (Instant ⊕ Fetch.Reply)) : List Log.Record :=
  match valueOfReply reply with
  | .error failure =>
    [⟨.warn, origin, "Feed fetch failed for token " ++ redacted ++ ": " ++ failure.message⟩]
  | .ok value =>
    let projection := Projection.ofValue titleStart value
    reportsOfSkipping projection.skipped ++
      (rest.filterMap Sum.getLeft?).flatMap (reportsOfKeeping projection.feed)

/-- What a call for a token reports, by the beginning of the token and by what is shown to it: a
clock reading alone stands for a feed that was fresh then. -/
def reportsOf (redacted titleStart : String) : List (Instant ⊕ Fetch.Reply) → List Log.Record
  | [.inl _] => [⟨.debug, origin, "Feed cache hit for token " ++ redacted⟩]
  | .inl _ :: .inr reply :: rest =>
    ⟨.info, origin, "Feed cache miss for token " ++ redacted ++ ", fetching"⟩ ::
      reportsOfReply redacted titleStart reply rest
  | _ => []

section Memory

variable {ε : Type} (outside : Outside ε) (token : String) (world : World ε)

/-- Keeping a feed in memory reads the clock once. -/
theorem events_keep (feed : Feed) :
    (keep memoryStore token feed).events outside world =
      [.reading (outside.now world.outside).1] := by
  unfold keep
  rw [Program.events_bind, Program.run_now, Program.events_now]
  cases (outside.now world.outside).1.later? lifetime with
  | none => rfl
  | some expiry => rfl

/-- Keeping a feed in memory reports it. -/
theorem records_keep (feed : Feed) :
    ((keep memoryStore token feed).run outside world).2.records =
      world.records ++ reportsOfKeeping feed (outside.now world.outside).1 := by
  unfold keep reportsOfKeeping
  rw [Program.run_bind, Program.run_now]
  cases (outside.now world.outside).1.later? lifetime with
  | none => simp
  | some expiry => rfl

/-- A download reports what it shows. -/
theorem records_download (settings : FeedSettings) (start : Instant) :
    ((download settings memoryStore token).run outside world).2.records =
      world.records ++ reportsOf (Log.redact token) settings.titleStart
        (.inl start :: ((download settings memoryStore token).events outside world).map
          Event.shown) := by
  unfold download
  simp only [Program.run_bind, Program.events_bind, Program.run_report, Program.events_report,
    Program.run_fetch, Program.events_fetch, List.nil_append, List.cons_append, List.map_cons,
    Event.shown, reportsOf, reportsOfReply]
  cases valueOfReply (outside.fetch (settings.addressFor token) world.outside).1 with
  | error failure => simp
  | ok value =>
    dsimp only [reportsOfSkipping]
    split
    · simp [records_keep, events_keep, Event.shown]
    · simp [records_keep, events_keep, Event.shown]

/-- What a call reports when feeds are kept in memory. -/
theorem records_load (settings : FeedSettings) :
    ((load settings memoryStore).run outside world).2.records =
      world.records ++ settings.usableToken.elim [] fun token =>
        reportsOf (Log.redact token) settings.titleStart
          (((load settings memoryStore).events outside world).map Event.shown) := by
  unfold load
  cases settings.usableToken with
  | none => simp
  | some token =>
    simp only [Program.run_bind, Program.events_bind, Program.run_now, Program.events_now,
      (memoryStore_keeps outside).get_events, Option.elim_some, List.cons_append, List.nil_append,
      List.map_cons, Event.shown]
    split
    · simp [reportsOf, memoryStore]
    · exact records_download outside token _ settings _

end Memory

end Feed
end QuizFeed
