import QuizFeed.Program

/-!
# What a run shows of the outside

`Program.events` lists the clock readings and downloads of a run in their order, with the answers
that the program got, which are those that clock and network show (`Program.shows_events`). A
program that leaves clock and network alone has no events (`Confined.events_quiet`), and one that
works on the disk does the same in all worlds with that disk (`Confined.run_onDisk`).
-/

namespace QuizFeed

open Time

/-- A clock reading, or a download with its reply. -/
inductive Event where
  | reading (instant : Instant)
  | request (url : String) (reply : Fetch.Reply)

/-- What an effect and its answer show of the outside. -/
def Effect.event? : (effect : Effect) → effect.Answer → Option Event
  | .now, instant => some (.reading instant)
  | .fetch url, reply => some (.request url reply)
  | _, _ => none

/-- Whether an effect works on the disk only. -/
def Effect.OnDisk : Effect → Prop
  | .inspect _ | .readFile _ | .makeDirectory _ | .makeTemporary _ | .writeTemporary _ _
  | .moveTemporary _ _ | .dropTemporary _ => True
  | .now | .fetch _ | .log _ | .retrieve _ | .remember _ _ => False

/-- Whether an effect looks for a node or makes a directory. -/
def Effect.OnDirectories : Effect → Prop
  | .inspect _ | .makeDirectory _ => True
  | .now | .fetch _ | .log _ | .retrieve _ | .remember _ _ | .readFile _ | .makeTemporary _
  | .writeTemporary _ _ | .moveTemporary _ _ | .dropTemporary _ => False

/-- Whether an effect leaves the clock and the network alone. -/
def Effect.IsQuiet : Effect → Prop
  | .now | .fetch _ => False
  | .log _ | .retrieve _ | .remember _ _ | .inspect _ | .readFile _ | .makeDirectory _
  | .makeTemporary _ | .writeTemporary _ _ | .moveTemporary _ _ | .dropTemporary _ => True

/-- Looking for directories and making them works on the disk only. -/
theorem Effect.OnDirectories.onDisk {effect : Effect} (onDirectories : effect.OnDirectories) :
    effect.OnDisk := by
  cases effect with
  | inspect | makeDirectory => trivial
  | _ => cases onDirectories

/-- What works on the disk leaves clock and network alone. -/
theorem Effect.OnDisk.isQuiet {effect : Effect} (onDisk : effect.OnDisk) : effect.IsQuiet := by
  cases effect with
  | now | fetch => cases onDisk
  | _ => trivial

/-- Whether an event is a download. -/
def Event.isRequest : Event → Bool
  | reading _ => false
  | request _ _ => true

/-- The instant of a clock reading. -/
def Event.instant? : Event → Option Instant
  | reading instant => some instant
  | request _ _ => none

/-- Whether events are what a clock and a network show, one after the other from a state on. -/
def Outside.Shows {ε : Type} (outside : Outside ε) : ε → List Event → Prop
  | _, [] => True
  | state, .reading instant :: rest =>
    instant = (outside.now state).1 ∧ outside.Shows (outside.now state).2 rest
  | state, .request url reply :: rest =>
    reply = (outside.fetch url state).1 ∧ outside.Shows (outside.fetch url state).2 rest

/-- A quiet effect shows nothing of the outside. -/
theorem Effect.event?_of_quiet {effect : Effect} (quiet : effect.IsQuiet)
    (answer : effect.Answer) : effect.event? answer = none := by
  cases effect with
  | now | fetch => cases quiet
  | _ => rfl

/-- An effect that leaves the clock and the network alone leaves their state. -/
theorem World.outside_answer_of_quiet {ε : Type} {outside : Outside ε} {effect : Effect}
    (quiet : effect.IsQuiet) (world : World ε) :
    (world.answer outside effect).2.outside = world.outside := by
  cases effect with
  | now | fetch => cases quiet
  | log | retrieve | remember | inspect | readFile | writeTemporary | dropTemporary => rfl
  | makeDirectory | makeTemporary | moveTemporary =>
    simp only [World.answer, World.change]
    split <;> rfl

/-- Where nothing changes the state of the outside, the clock shows one instant only. -/
theorem Outside.Shows.instant_eq {ε : Type} {outside : Outside ε} {state : ε}
    (still : ∀ state, (outside.now state).2 = state)
    (stays : ∀ url state, (outside.fetch url state).2 = state) {events : List Event}
    (shown : outside.Shows state events) {instant : Instant}
    (reading : instant ∈ events.filterMap Event.instant?) : instant = (outside.now state).1 := by
  induction events with
  | nil => simp at reading
  | cons event rest inductionHypothesis =>
    cases event with
    | reading first =>
      obtain ⟨isNow, later⟩ := shown
      rw [still] at later
      rcases List.mem_cons.mp reading with rfl | inside
      · exact isNow
      · exact inductionHypothesis later inside
    | request url reply =>
      obtain ⟨_, later⟩ := shown
      rw [stays] at later
      exact inductionHypothesis later reading

/-- A text is read back from its bytes. -/
theorem fromUTF8?_toUTF8 (text : String) : String.fromUTF8? text.toUTF8 = some text := by
  unfold String.fromUTF8?
  rw [String.toUTF8_eq_toByteArray, dif_pos text.isValidUTF8]
  rfl

namespace Program

variable {α β ε : Type} (outside : Outside ε)

/-- The clock readings and downloads of a run. -/
def events : Program α → World ε → List Event
  | done _, _ => []
  | perform effect next, world =>
    (effect.event? (world.answer outside effect).1).toList ++
      (next (world.answer outside effect).1).events (world.answer outside effect).2

/-- The effects that a run asks for. -/
def effects : Program α → World ε → List Effect
  | done _, _ => []
  | perform effect next, world =>
    effect :: (next (world.answer outside effect).1).effects (world.answer outside effect).2

@[simp] theorem run_pure (result : α) (world : World ε) :
    (pure result : Program α).run outside world = (result, world) := rfl

@[simp] theorem events_pure (result : α) (world : World ε) :
    (pure result : Program α).events outside world = [] := rfl

@[simp] theorem run_now (world : World ε) :
    now.run outside world =
      ((outside.now world.outside).1,
        { world with outside := (outside.now world.outside).2 }) := rfl

@[simp] theorem events_now (world : World ε) :
    now.events outside world = [.reading (outside.now world.outside).1] := rfl

@[simp] theorem run_fetch (url : String) (world : World ε) :
    (fetch url).run outside world =
      ((outside.fetch url world.outside).1,
        { world with
          outside := (outside.fetch url world.outside).2, urls := world.urls ++ [url] }) := rfl

@[simp] theorem events_fetch (url : String) (world : World ε) :
    (fetch url).events outside world =
      [.request url (outside.fetch url world.outside).1] := rfl

@[simp] theorem run_report (level : Log.Level) (origin text : String) (world : World ε) :
    (report level origin text).run outside world =
      ((), { world with records := world.records ++ [⟨level, origin, text⟩] }) := rfl

@[simp] theorem events_report (level : Log.Level) (origin text : String) (world : World ε) :
    (report level origin text).events outside world = [] := rfl

@[simp] theorem run_retrieve (key : String) (world : World ε) :
    (retrieve key).run outside world = (world.memory.lookup key, world) := rfl

@[simp] theorem run_readFile (path : Path) (world : World ε) :
    (readFile path).run outside world = (world.disk.contentAt path, world) := rfl

/-- A file that holds a text is read as that text. -/
theorem run_readText {path : Path} {text : String} {world : World ε}
    (held : world.disk.contentAt path = .ok text.toUTF8) :
    (readText path).run outside world = (.ok text, world) := by
  rw [readText, run_bind, run_readFile, held]
  dsimp only
  rw [fromUTF8?_toUTF8, run_pure]

/-- A program that goes on has the events of both parts. -/
@[simp] theorem events_bind (program : Program α) (next : α → Program β) (world : World ε) :
    (program >>= next).events outside world =
      program.events outside world ++
        (next (program.run outside world).1).events outside (program.run outside world).2 := by
  change (program.bind next).events outside world = _
  induction program generalizing world with
  | done => rfl
  | perform effect rest inductionHypothesis =>
    simp only [Program.bind, events, run_perform, List.append_assoc]
    rw [inductionHypothesis]

/-- A program that goes on asks for the effects of both parts. -/
theorem effects_bind (program : Program α) (next : α → Program β) (world : World ε) :
    (program >>= next).effects outside world =
      program.effects outside world ++
        (next (program.run outside world).1).effects outside (program.run outside world).2 := by
  change (program.bind next).effects outside world = _
  induction program generalizing world with
  | done => rfl
  | perform effect rest inductionHypothesis =>
    simp only [Program.bind, effects, run_perform, List.cons_append]
    rw [inductionHypothesis]

/-- The events of a run are what clock and network show from its start on. -/
theorem shows_events (program : Program α) (world : World ε) :
    outside.Shows world.outside (program.events outside world) := by
  induction program generalizing world with
  | done => trivial
  | perform effect rest inductionHypothesis =>
    by_cases quiet : effect.IsQuiet
    · rw [events, Effect.event?_of_quiet quiet, ← World.outside_answer_of_quiet quiet]
      exact inductionHypothesis _ _
    · cases effect with
      | now => exact ⟨rfl, inductionHypothesis _ (world.answer outside .now).2⟩
      | fetch url => exact ⟨rfl, inductionHypothesis _ (world.answer outside (.fetch url)).2⟩
      | _ => exact absurd trivial quiet

/-- It does not matter how three programs after one another are grouped. -/
theorem bind_assoc {γ : Type} (program : Program α) (next : α → Program β)
    (last : β → Program γ) :
    program >>= next >>= last = program >>= fun result => next result >>= last := by
  change (program.bind next).bind last = program.bind fun result => (next result).bind last
  induction program with
  | done => rfl
  | perform effect rest inductionHypothesis =>
    exact congrArg (perform effect) (funext inductionHypothesis)

/-- A program that asks for allowed effects only, whatever it is answered. -/
def Confined (allowed : Effect → Prop) : Program α → Prop
  | done _ => True
  | perform effect next => allowed effect ∧ ∀ answer, (next answer).Confined allowed

variable {allowed : Effect → Prop} {program : Program α} {next : α → Program β}

/-- A program that is done asks for nothing. -/
theorem confined_pure (result : α) : (pure result : Program α).Confined allowed :=
  trivial

/-- Programs after one another ask for what is allowed if each of them does. -/
theorem Confined.bind (first : program.Confined allowed)
    (second : ∀ result, (next result).Confined allowed) :
    (program >>= next).Confined allowed := by
  change (program.bind next).Confined allowed
  induction program with
  | done result => exact second result
  | perform effect rest inductionHypothesis =>
    exact ⟨first.1, fun answer => inductionHypothesis answer (first.2 answer)⟩

/-- A program that asks for some effects asks for some of more. -/
theorem Confined.mono {permitted : Effect → Prop} (confined : program.Confined allowed)
    (more : ∀ effect, allowed effect → permitted effect) : program.Confined permitted := by
  induction program with
  | done => trivial
  | perform effect rest inductionHypothesis =>
    exact ⟨more effect confined.1, fun answer => inductionHypothesis answer (confined.2 answer)⟩

variable {outside}

/-- A confined program asks for allowed effects. -/
theorem Confined.mem_effects (confined : program.Confined allowed) {world : World ε}
    {effect : Effect} (asked : effect ∈ program.effects outside world) : allowed effect := by
  induction program generalizing world with
  | done => cases asked
  | perform first rest inductionHypothesis =>
    rcases List.mem_cons.mp asked with rfl | later
    · exact confined.1
    · exact inductionHypothesis _ (confined.2 _) later

/-- What every allowed effect leaves true is still true after a confined program. -/
theorem Confined.invariant (holds : World ε → Prop)
    (step : ∀ effect, allowed effect → ∀ world, holds world →
      holds (world.answer outside effect).2)
    (confined : program.Confined allowed) {world : World ε} (held : holds world) :
    holds (program.run outside world).2 := by
  induction program generalizing world with
  | done => exact held
  | perform effect rest inductionHypothesis =>
    exact inductionHypothesis _ (confined.2 _) (step effect confined.1 world held)

/-- Worlds that agree on a part of them, which decides every allowed answer and what it makes of
that part, give a confined program the same result and still agree afterwards. -/
theorem Confined.run_agrees {ε' γ : Type} {outside' : Outside ε'} {part : World ε → γ}
    {part' : World ε' → γ}
    (step : ∀ effect, allowed effect → ∀ (world : World ε) (world' : World ε'),
      part world = part' world' →
        (world.answer outside effect).1 = (world'.answer outside' effect).1 ∧
          part (world.answer outside effect).2 = part' (world'.answer outside' effect).2)
    (confined : program.Confined allowed) {world : World ε} {world' : World ε'}
    (agree : part world = part' world') :
    (program.run outside world).1 = (program.run outside' world').1 ∧
      part (program.run outside world).2 = part' (program.run outside' world').2 := by
  induction program generalizing world world' with
  | done => exact ⟨rfl, agree⟩
  | perform effect rest inductionHypothesis =>
    obtain ⟨answer, still⟩ := step effect confined.1 world world' agree
    rw [run_perform, run_perform, answer]
    exact inductionHypothesis _ (confined.2 _) still

/-- A program that leaves the clock and the network alone has no events. -/
theorem Confined.events_quiet (confined : program.Confined Effect.IsQuiet) (world : World ε) :
    program.events outside world = [] := by
  induction program generalizing world with
  | done => rfl
  | perform effect rest inductionHypothesis =>
    rw [events, Effect.event?_of_quiet confined.1, inductionHypothesis _ (confined.2 _)]
    rfl

/-- A report leaves clock and network alone. -/
theorem quiet_report (level : Log.Level) (origin text : String) :
    (report level origin text).Confined Effect.IsQuiet :=
  ⟨trivial, fun _ => trivial⟩

/-- Reading a text leaves clock and network alone. -/
theorem quiet_readText (path : Path) : (readText path).Confined Effect.IsQuiet := by
  have content : (readFile path).Confined Effect.IsQuiet := ⟨trivial, fun _ => trivial⟩
  refine content.bind fun answer => ?_
  split
  · split <;> exact confined_pure _
  · exact confined_pure _

/-- What a program on the disk does is decided by the disk. -/
theorem Confined.run_onDisk {ε' : Type} {outside' : Outside ε'}
    (confined : program.Confined Effect.OnDisk) {world : World ε} {world' : World ε'}
    (same : world.disk = world'.disk) :
    (program.run outside world).1 = (program.run outside' world').1 ∧
      (program.run outside world).2.disk = (program.run outside' world').2.disk := by
  refine confined.run_agrees (fun effect onDisk world world' same => ?_) same
  cases effect with
  | now | fetch | log | retrieve | remember => cases onDisk
  | inspect path => exact ⟨congrArg (Files.Disk.kindAt · path) same, same⟩
  | readFile path => exact ⟨congrArg (Files.Disk.contentAt · path) same, same⟩
  | writeTemporary | dropTemporary =>
    simp only [World.answer, same]
    exact ⟨rfl, trivial⟩
  | makeDirectory | makeTemporary | moveTemporary =>
    simp only [World.answer, World.change, same]
    split <;> exact ⟨rfl, by first | rfl | exact same⟩

end Program
end QuizFeed
