import QuizFeed.Proofs.Feed.Freshness
import QuizFeed.Proofs.Program.Interleaving

/-!
# Calls side by side

Services that share a memory call for feeds at the same time, and their steps come in any order.
`Progress` lists how far a call can have come, whatever it was answered: it asks for the time and
for what is in memory, downloads once if nothing fresh is there, asks for the time again, and puts
the feed of its own download into memory. So whatever is in memory is what one call downloaded,
with the expiry that the same call counted (`interleaved_calls`).
-/

namespace QuizFeed.Feed

open Time Cache

/-- The steps of a call up to the end of its download. -/
def downloadSteps (settings : FeedSettings) (token : String) (start : Instant)
    (found : Option Snapshot) (reply : Fetch.Reply) : List Deed :=
  [⟨.now, start⟩, ⟨.retrieve (keyOf token), found⟩, ⟨.fetch (settings.addressFor token), reply⟩]

/-- How far a call has come: its steps so far, and its result once it has one. -/
inductive Progress (settings : FeedSettings) :
    List Deed → Option (Except LoadFailure Feed) → Prop where
  | refused (absent : settings.usableToken = none) :
      Progress settings [] (some (.error .missingToken))
  | begun {token} (usable : settings.usableToken = some token) : Progress settings [] none
  | timed {token start} (usable : settings.usableToken = some token) :
      Progress settings [⟨.now, start⟩] none
  | looked {token start found} (usable : settings.usableToken = some token) :
      Progress settings [⟨.now, start⟩, ⟨.retrieve (keyOf token), found⟩] none
  | served {token start} {snapshot : Snapshot} (usable : settings.usableToken = some token)
      (fresh : snapshot.isFresh start = true) :
      Progress settings [⟨.now, start⟩, ⟨.retrieve (keyOf token), some snapshot⟩]
        (some (.ok snapshot.feed))
  | fetched {token start found reply} (usable : settings.usableToken = some token)
      (stale : found.filter (·.isFresh start) = none) :
      Progress settings (downloadSteps settings token start found reply) none
  | failed {token start found reply failure} (usable : settings.usableToken = some token)
      (stale : found.filter (·.isFresh start) = none)
      (bad : valueOfReply reply = .error failure) :
      Progress settings (downloadSteps settings token start found reply) (some (.error failure))
  | ended {token start found reply value finish} (usable : settings.usableToken = some token)
      (stale : found.filter (·.isFresh start) = none) (good : valueOfReply reply = .ok value) :
      Progress settings (downloadSteps settings token start found reply ++ [⟨.now, finish⟩]) none
  | unlimited {token start found reply value finish}
      (usable : settings.usableToken = some token)
      (stale : found.filter (·.isFresh start) = none) (good : valueOfReply reply = .ok value)
      (last : finish.later? lifetime = none) :
      Progress settings (downloadSteps settings token start found reply ++ [⟨.now, finish⟩])
        (some (.error .expiryOutOfRange))
  | stored {token start found reply value finish expiry}
      (usable : settings.usableToken = some token)
      (stale : found.filter (·.isFresh start) = none) (good : valueOfReply reply = .ok value)
      (limited : finish.later? lifetime = some expiry) :
      Progress settings (downloadSteps settings token start found reply ++ [⟨.now, finish⟩,
        ⟨.remember (keyOf token) ⟨(Projection.ofValue settings.titleStart value).feed, expiry⟩,
          ()⟩]) none
  | downloaded {token start found reply value finish expiry}
      (usable : settings.usableToken = some token)
      (stale : found.filter (·.isFresh start) = none) (good : valueOfReply reply = .ok value)
      (limited : finish.later? lifetime = some expiry) :
      Progress settings (downloadSteps settings token start found reply ++ [⟨.now, finish⟩,
        ⟨.remember (keyOf token) ⟨(Projection.ofValue settings.titleStart value).feed, expiry⟩,
          ()⟩]) (some (.ok (Projection.ofValue settings.titleStart value).feed))

/-- The deeds other than reports. -/
def steps (deeds : List Deed) : List Deed :=
  deeds.filter fun deed => !deed.isRecord

/-- A deed that counts is a step. -/
theorem steps_cons {deed : Deed} (deeds : List Deed) (counts : deed.isRecord = false) :
    steps (deed :: deeds) = deed :: steps deeds :=
  List.filter_cons_of_pos (by rw [counts]; rfl)

/-- A step is one of the deeds. -/
theorem mem_of_mem_steps {deed : Deed} {deeds : List Deed} (member : deed ∈ steps deeds) :
    deed ∈ deeds :=
  (List.mem_filter.mp member).1

section Progress

variable {settings : FeedSettings} {token : String} {start : Instant} {found : Option Snapshot}
  {reply : Fetch.Reply} {deeds : List Deed} {last : Program (Except LoadFailure Feed)}

/-- A report is no step. -/
theorem follows_of_report {level : Log.Level} {origin text : String}
    {next : Unit → Program (Except LoadFailure Feed)}
    (follows : (Program.report level origin text >>= next).Follows deeds last) :
    (steps deeds = [] ∧ last.result? = none) ∨
      ∃ later, steps deeds = steps later ∧ (next ()).Follows later last := by
  rcases follows.of_ask with ⟨rfl, waits⟩ | ⟨answer, later, rfl, rest⟩
  · exact .inl ⟨rfl, waits⟩
  · exact .inr ⟨later, rfl, rest⟩

/-- How far a call can have come after its download. -/
theorem progress_of_keep (usable : settings.usableToken = some token)
    (stale : found.filter (·.isFresh start) = none) {value : Json.Value}
    (good : valueOfReply reply = .ok value)
    (follows : (keep memoryStore token
      (Projection.ofValue settings.titleStart value).feed).Follows deeds last) :
    Progress settings (downloadSteps settings token start found reply ++ steps deeds)
      last.result? := by
  rcases follows.of_ask with ⟨rfl, waits⟩ | ⟨finish, later, rfl, ended⟩
  · rw [waits]
    exact .fetched usable stale
  cases limited : Instant.later? finish lifetime with
  | none =>
    rw [limited] at ended
    obtain ⟨rfl, rfl⟩ := ended.of_done
    exact .unlimited usable stale good limited
  | some expiry =>
    rw [limited] at ended
    rcases ended.of_ask with ⟨rfl, waits⟩ | ⟨answer, after, rfl, stored⟩
    · rw [waits]
      exact .ended usable stale good
    · rw [steps_cons _ rfl, steps_cons _ rfl]
      rcases follows_of_report stored with ⟨silent, waits⟩ | ⟨nothing, silent, done⟩
      · rw [silent, waits]
        exact .stored usable stale good limited
      · obtain ⟨rfl, rfl⟩ := done.of_done
        rw [silent]
        exact .downloaded usable stale good limited

/-- How far a call can have come after it found nothing fresh. -/
theorem progress_of_download (usable : settings.usableToken = some token)
    (stale : found.filter (·.isFresh start) = none)
    (follows : (download settings memoryStore token).Follows deeds last) :
    Progress settings (⟨.now, start⟩ :: ⟨.retrieve (keyOf token), found⟩ :: steps deeds)
      last.result? := by
  rcases follows_of_report follows with ⟨silent, waits⟩ | ⟨others, same, asked⟩
  · rw [silent, waits]
    exact .looked usable
  rw [same]
  rcases asked.of_ask with ⟨rfl, waits⟩ | ⟨reply, later, rfl, answered⟩
  · rw [waits]
    exact .looked usable
  rw [steps_cons _ rfl]
  cases read : valueOfReply reply with
  | error failure =>
    rw [read] at answered
    rcases follows_of_report answered with ⟨silent, waits⟩ | ⟨nothing, silent, done⟩
    · rw [silent, waits]
      exact .fetched usable stale
    · obtain ⟨rfl, rfl⟩ := done.of_done
      rw [silent]
      exact .failed usable stale read
  | ok value =>
    rw [read] at answered
    dsimp only at answered
    split at answered
    · rcases follows_of_report answered with ⟨silent, waits⟩ | ⟨nothing, silent, kept⟩
      · rw [silent, waits]
        exact .fetched usable stale
      · rw [silent]
        exact progress_of_keep usable stale read kept
    · exact progress_of_keep usable stale read answered

/-- How far a call can have come. -/
theorem progress_of_load (follows : (load settings memoryStore).Follows deeds last) :
    Progress settings (steps deeds) last.result? := by
  unfold load at follows
  cases usable : settings.usableToken with
  | none =>
    rw [usable] at follows
    obtain ⟨rfl, rfl⟩ := follows.of_done
    exact .refused usable
  | some token =>
    rw [usable] at follows
    rcases follows.of_ask with ⟨rfl, waits⟩ | ⟨start, later, rfl, asked⟩
    · rw [waits]
      exact .begun usable
    rcases asked.of_ask with ⟨rfl, waits⟩ | ⟨found, after, rfl, answered⟩
    · rw [waits]
      exact .timed usable
    rw [steps_cons _ rfl, steps_cons _ rfl]
    cases fresh : Option.filter (fun snapshot : Snapshot => snapshot.isFresh start) found with
    | none =>
      rw [fresh] at answered
      exact progress_of_download usable fresh answered
    | some snapshot =>
      rw [fresh] at answered
      obtain ⟨rfl, isFresh⟩ := Option.filter_eq_some_iff.mp fresh
      rcases follows_of_report answered with ⟨silent, waits⟩ | ⟨nothing, silent, done⟩
      · rw [silent, waits]
        exact .looked usable
      · obtain ⟨rfl, rfl⟩ := done.of_done
        rw [silent]
        exact .served usable isFresh

end Progress

/-- The call found nothing fresh and downloaded once. The snapshot that it put into memory has the
feed of that download, and the expiry counted from its own second reading of the clock. -/
def Stores (settings : FeedSettings) (deeds : List Deed) (token : String) (snapshot : Snapshot) :
    Prop :=
  ∃ start found body value finish,
    settings.usableToken = some token ∧
    found.filter (·.isFresh start) = none ∧
    Json.read body.data.toList = .ok value ∧
    snapshot.feed = (Projection.ofValue settings.titleStart value).feed ∧
    finish.later? lifetime = some snapshot.expiry ∧
    steps deeds = downloadSteps settings token start found (.ok body) ++
      [⟨.now, finish⟩, ⟨.remember (keyOf token) snapshot, ()⟩]

section Progress

variable {settings : FeedSettings} {deeds : List Deed} {result : Option (Except LoadFailure Feed)}

/-- Reports neither download nor put anything. -/
theorem filterMap_steps {α : Type} {what : Deed → Option α}
    (silent : ∀ record answer, what ⟨.log record, answer⟩ = none) (deeds : List Deed) :
    (steps deeds).filterMap what = deeds.filterMap what := by
  rw [steps, List.filterMap_filter]
  congr 1
  funext deed
  obtain ⟨effect, answer⟩ := deed
  cases effect with
  | log record => exact (silent record answer).symm
  | _ => rfl

/-- A call downloads at most once. -/
theorem Progress.downloads_le (progress : Progress settings (steps deeds) result) :
    (deeds.filterMap Deed.download?).length ≤ 1 := by
  rw [← filterMap_steps fun _ _ => rfl]
  generalize steps deeds = own at progress
  cases progress with
  | refused | begun | timed | looked | served => exact Nat.zero_le 1
  | fetched | failed | ended | unlimited | stored | downloaded => exact Nat.le_refl 1

/-- A call that put something into memory has downloaded it. -/
theorem Progress.stores (progress : Progress settings (steps deeds) result) {key : String}
    {snapshot : Snapshot} (put : (key, snapshot) ∈ deeds.filterMap Deed.put?) :
    ∃ token, key = keyOf token ∧ Stores settings deeds token snapshot := by
  rw [← filterMap_steps fun _ _ => rfl] at put
  generalize same : steps deeds = own at progress put
  cases progress with
  | refused | begun | timed | looked | served | fetched | failed | ended | unlimited =>
    exact absurd put List.not_mem_nil
  | stored usable stale good limited | downloaded usable stale good limited =>
    cases List.mem_singleton.mp put
    obtain ⟨body, rfl, read⟩ := valueOfReply_eq_ok good
    exact ⟨_, rfl, _, _, body, _, _, usable, stale, read, rfl, limited, same⟩

/-- A call that has an answer downloaded it, or it found it in memory. -/
theorem Progress.answered {feed : Feed}
    (progress : Progress settings (steps deeds) (some (.ok feed))) :
    ∃ token, settings.usableToken = some token ∧
      ((∃ expiry, Stores settings deeds token ⟨feed, expiry⟩) ∨
        ∃ start snapshot, steps deeds =
          [⟨.now, start⟩, ⟨.retrieve (keyOf token), some snapshot⟩] ∧
          feed = snapshot.feed ∧ start.precedes snapshot.expiry = true) := by
  generalize same : steps deeds = own at progress
  generalize which : some (Except.ok feed) = result at progress
  cases progress with
  | refused | begun | timed | looked | fetched | failed | ended | unlimited | stored => cases which
  | served usable fresh =>
    cases which
    exact ⟨_, usable, .inr ⟨_, _, rfl, rfl, fresh⟩⟩
  | downloaded usable stale good limited =>
    cases which
    obtain ⟨body, rfl, read⟩ := valueOfReply_eq_ok good
    exact ⟨_, usable, .inl ⟨_, _, _, body, _, _, usable, stale, read, rfl, limited, same⟩⟩

/-- A call that could not read what it downloaded puts nothing into memory. -/
theorem Progress.puts_of_failed (progress : Progress settings (steps deeds) result)
    {url : String} {reply : Fetch.Reply} {failure : LoadFailure}
    (asked : (url, reply) ∈ deeds.filterMap Deed.download?)
    (bad : valueOfReply reply = .error failure) :
    deeds.filterMap Deed.put? = [] := by
  rw [← filterMap_steps fun _ _ => rfl] at asked ⊢
  generalize steps deeds = own at progress asked ⊢
  cases progress with
  | refused | begun | timed | looked | served | fetched | failed | ended | unlimited => rfl
  | stored _ _ good | downloaded _ _ good =>
    cases List.mem_singleton.mp asked
    rw [good] at bad
    cases bad

end Progress

section Crew

variable {ι ε : Type} [DecidableEq ι] (outside : Outside ε) (settings : ι → FeedSettings)

/-- The calls of services with some settings over a memory in which nothing is yet. -/
def callers (world : World ε) : Crew ι ε (Except LoadFailure Feed) :=
  ⟨{ world with memory := [] }, fun caller => load (settings caller) memoryStore⟩

/-- What was put last under the key of a token is what one of the calls downloaded for that token,
with the expiry that the same call counted. -/
def LastPut (trace : List (ι × Deed)) (token : String) (snapshot : Snapshot) : Prop :=
  ∃ older source newer,
    trace = older ++ (source, ⟨.remember (keyOf token) snapshot, ()⟩) :: newer ∧
    Stores (settings source) (deedsOf source trace) token snapshot ∧
    ∀ step ∈ newer, ∀ other, step.2.put? ≠ some (keyOf token, other)

/-- The call downloads nothing. It hands out what it finds in memory, which was put last there, and
whose expiry is after its own first reading of the clock. -/
def Reuses (trace : List (ι × Deed)) (caller : ι) (token : String) (feed : Feed) : Prop :=
  ∃ start snapshot earlier later,
    steps (deedsOf caller trace) =
      [⟨.now, start⟩, ⟨.retrieve (keyOf token), some snapshot⟩] ∧
    trace = earlier ++ (caller, ⟨.retrieve (keyOf token), some snapshot⟩) :: later ∧
    LastPut settings earlier token snapshot ∧
    feed = snapshot.feed ∧
    start.precedes snapshot.expiry = true

variable {outside settings}

/-- What is found among the things that calls have put is what one of them downloaded. -/
theorem lastPut_of_lookup {trace : List (ι × Deed)}
    (progress : ∀ caller, ∃ result,
      Progress (settings caller) (steps (deedsOf caller trace)) result)
    {key : String} {snapshot : Snapshot}
    (found : (trace.filterMap fun step => step.2.put?).reverse.lookup key = some snapshot) :
    ∃ token, key = keyOf token ∧ LastPut settings trace token snapshot := by
  obtain ⟨older, source, newer, split, last⟩ := exists_put_of_lookup found
  obtain ⟨result, own⟩ := progress source
  have member : ⟨.remember key snapshot, ()⟩ ∈ deedsOf source trace :=
    mem_deedsOf.mpr (split ▸ List.mem_append_right older List.mem_cons_self)
  obtain ⟨token, rfl, stores⟩ := own.stores (List.mem_filterMap.mpr ⟨_, member, rfl⟩)
  exact ⟨token, rfl, older, source, newer, split, stores, last⟩

/-- Whatever the schedule, a call is somewhere on its way. -/
theorem progress_of_run (world : World ε) (schedule : List (ι × ε)) (caller : ι) :
    let ran := Crew.run outside schedule (callers settings world)
    Progress (settings caller) (steps (deedsOf caller ran.1)) (ran.2.rest caller).result? :=
  progress_of_load (Crew.follows_run outside schedule (callers settings world) caller)

/-- Whatever the schedule, a call was somewhere on its way at every earlier time. -/
theorem progress_of_run_before (world : World ε) (schedule : List (ι × ε))
    {earlier later : List (ι × Deed)}
    (split : (Crew.run outside schedule (callers settings world)).1 = earlier ++ later)
    (caller : ι) :
    ∃ result, Progress (settings caller) (steps (deedsOf caller earlier)) result := by
  have follows := Crew.follows_run outside schedule (callers settings world) caller
  rw [split, deedsOf_append] at follows
  obtain ⟨middle, before⟩ := follows.of_append
  exact ⟨_, progress_of_load before⟩

variable (outside settings)

/-- Calls that share a memory, with their steps in any order and any movement of the clock between
them: each downloads at most once, hands out the feed of its own download or one that is still fresh
in memory, and what is in memory is what one call downloaded, with the expiry that it counted. A
call whose download fails puts nothing there. -/
theorem interleaved_calls (world : World ε) (schedule : List (ι × ε)) :
    let ran := Crew.run outside schedule (callers settings world)
    (∀ caller, ((deedsOf caller ran.1).filterMap Deed.download?).length ≤ 1) ∧
    (∀ caller feed, (ran.2.rest caller).result? = some (.ok feed) →
      ∃ token, (settings caller).usableToken = some token ∧
        ((∃ expiry, Stores (settings caller) (deedsOf caller ran.1) token ⟨feed, expiry⟩) ∨
          Reuses settings ran.1 caller token feed)) ∧
    (∀ key snapshot, ran.2.world.memory.lookup key = some snapshot →
      ∃ token, key = keyOf token ∧ LastPut settings ran.1 token snapshot) ∧
    (∀ caller url reply failure,
      (url, reply) ∈ (deedsOf caller ran.1).filterMap Deed.download? →
      valueOfReply reply = .error failure →
      (deedsOf caller ran.1).filterMap Deed.put? = []) := by
  intro ran
  have progress : ∀ caller, Progress (settings caller) (steps (deedsOf caller ran.1))
      (ran.2.rest caller).result? := progress_of_run world schedule
  refine ⟨fun caller => (progress caller).downloads_le, fun caller feed answered => ?_,
    fun key snapshot found => ?_,
    fun caller url reply failure asked bad => (progress caller).puts_of_failed asked bad⟩
  · have own := progress caller
    rw [answered] at own
    obtain ⟨token, usable, first | ⟨start, snapshot, happened, same, fresh⟩⟩ := own.answered
    · exact ⟨token, usable, .inl first⟩
    · refine ⟨token, usable, .inr ?_⟩
      have looked : ⟨.retrieve (keyOf token), some snapshot⟩ ∈ steps (deedsOf caller ran.1) :=
        happened ▸ List.mem_cons_of_mem _ List.mem_cons_self
      obtain ⟨earlier, later, split⟩ :=
      List.append_of_mem (mem_deedsOf.mp (mem_of_mem_steps looked))
      have found := Crew.found_of_run outside schedule (callers settings world) split
      rw [show (callers settings world).world.memory = [] from rfl, List.append_nil] at found
      obtain ⟨other, equal, put⟩ :=
        lastPut_of_lookup (progress_of_run_before world schedule split) found.symm
      obtain rfl := keyOf_injective equal
      exact ⟨start, snapshot, earlier, later, happened, split, put, same, fresh⟩
  · rw [Crew.memory_run, show (callers settings world).world.memory = [] from rfl,
      List.append_nil] at found
    exact lastPut_of_lookup (fun caller => ⟨_, progress caller⟩) found

end Crew

/-- Two calls for one token race: both find nothing and both download. A third call finds what was
put last, and reuses it. -/
theorem interleaved_calls_raced :
    let settings : String → FeedSettings := fun caller => { token := some caller }
    let schedule : List (String × Instant) :=
      (List.replicate 7 [(" t", .epoch), ("t", .epoch)]).flatten ++
        List.replicate 3 ("t\n", ⟨29, 999000000, by decide⟩)
    let ran := Crew.run emptyNetwork schedule (callers settings (worldAt .epoch))
    (ran.1.filterMap fun step => step.2.download?.map fun _ => step.1) = [" t", "t"] ∧
      (ran.2.rest "t\n").result? = some (.ok .empty) ∧
      ∃ token, (settings "t\n").usableToken = some token ∧
        ((∃ expiry, Stores (settings "t\n") (deedsOf "t\n" ran.1) token ⟨.empty, expiry⟩) ∨
          Reuses settings ran.1 "t\n" token .empty) := by
  intro settings schedule ran
  have answered : (ran.2.rest "t\n").result? = some (.ok .empty) := by
    obtain ⟨result, done, ok⟩ : ∃ result, (ran.2.rest "t\n").result? = some result ∧
        result.toOption = some .empty := Option.map_eq_some_iff.mp (by decide +kernel)
    rw [done, eq_ok_of_toOption ok]
  exact ⟨by decide +kernel, answered,
    (interleaved_calls emptyNetwork settings (worldAt .epoch) schedule).2.1 _ _ answered⟩

end QuizFeed.Feed
