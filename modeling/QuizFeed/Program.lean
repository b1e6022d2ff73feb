import QuizFeed.Cache.Snapshot
import QuizFeed.Fetch.Failure
import QuizFeed.Files.Disk
import QuizFeed.Log

/-!
# Programs

A program is a value that asks for one effect after the other and goes on with the answers. What
an effect does is decided by whoever runs the program: `Program.run` runs it in a `World`, where
the clock and the network may do anything, and the command line runs it on a real machine.
-/

namespace QuizFeed

open Time

/-- What a program may ask for. -/
inductive Effect where
  | now
  | fetch (url : String)
  | log (record : Log.Record)
  | retrieve (key : String)
  | remember (key : String) (snapshot : Snapshot)
  | inspect (path : Path)
  | readFile (path : Path)
  | makeDirectory (path : Path)
  | makeTemporary (directory : Path)
  | writeTemporary (temporary : Files.Location) (content : ByteArray)
  | moveTemporary (temporary : Files.Location) (target : Path)
  | dropTemporary (temporary : Files.Location)

/-- What answers an effect. -/
def Effect.Answer : Effect → Type
  | now => Instant
  | fetch _ => Fetch.Reply
  | log _ => Unit
  | retrieve _ => Option Snapshot
  | remember _ _ => Unit
  | inspect _ => Except Files.Cause Files.Kind
  | readFile _ => Except Files.Cause ByteArray
  | makeDirectory _ => Except Files.Cause Unit
  | makeTemporary _ => Except Files.Cause Files.Location
  | writeTemporary _ _ => Except Files.Cause Unit
  | moveTemporary _ _ => Except Files.Cause Unit
  | dropTemporary _ => Unit

/-- A result, or an effect and what to do with its answer. -/
inductive Program (α : Type) where
  | done (result : α)
  | perform (effect : Effect) (next : effect.Answer → Program α)

namespace Program

/-- Goes on with the result of a program. -/
def bind {α β : Type} : Program α → (α → Program β) → Program β
  | done result, next => next result
  | perform effect rest, next => perform effect fun answer => (rest answer).bind next

instance : Monad Program where
  pure := done
  bind := bind

/-- The program that asks for one effect. -/
def ask (effect : Effect) : Program effect.Answer :=
  perform effect done

/-- Reads the clock. -/
def now : Program Instant :=
  ask .now

/-- Downloads what a url leads to. -/
def fetch (url : String) : Program Fetch.Reply :=
  ask (.fetch url)

/-- Reports something. -/
def report (level : Log.Level) (origin text : String) : Program Unit :=
  ask (.log ⟨level, origin, text⟩)

/-- What is in memory under a key. -/
def retrieve (key : String) : Program (Option Snapshot) :=
  ask (.retrieve key)

/-- Puts a snapshot into memory. -/
def remember (key : String) (snapshot : Snapshot) : Program Unit :=
  ask (.remember key snapshot)

/-- The kind of node that a path leads to. -/
def inspect (path : Path) : Program (Except Files.Cause Files.Kind) :=
  ask (.inspect path)

/-- The content of a file. -/
def readFile (path : Path) : Program (Except Files.Cause ByteArray) :=
  ask (.readFile path)

/-- The content of a file as text. -/
def readText (path : Path) : Program (Except Files.Cause String) := do
  match ← readFile path with
  | .ok content =>
    match String.fromUTF8? content with
    | some text => pure (.ok text)
    | none => pure (.error .notText)
  | .error cause => pure (.error cause)

/-- Makes a directory in a directory that is there. -/
def makeDirectory (path : Path) : Program (Except Files.Cause Unit) :=
  ask (.makeDirectory path)

/-- Makes an empty file with a fresh name. -/
def makeTemporary (directory : Path) : Program (Except Files.Cause Files.Location) :=
  ask (.makeTemporary directory)

/-- Writes the content of a temporary file. -/
def writeTemporary (temporary : Files.Location) (content : ByteArray) :
    Program (Except Files.Cause Unit) :=
  ask (.writeTemporary temporary content)

/-- Gives a temporary file its final place. -/
def moveTemporary (temporary : Files.Location) (target : Path) :
    Program (Except Files.Cause Unit) :=
  ask (.moveTemporary temporary target)

/-- Removes a temporary file. -/
def dropTemporary (temporary : Files.Location) : Program Unit :=
  ask (.dropTemporary temporary)

end Program

/-- What lies outside of the control of a program: a clock and a network, with a state of their
own that reading the clock and downloading may change. -/
structure Outside (ε : Type) where
  now : ε → Instant × ε
  fetch : String → ε → Fetch.Reply × ε

/-- The state of everything that effects refer to. -/
structure World (ε : Type) where
  disk : Files.Disk
  memory : List (String × Snapshot)
  records : List Log.Record
  urls : List String
  outside : ε

namespace World

variable {ε : Type}

/-- The answer of an operation on the disk, and the world with the new disk if there is one. -/
def change {α : Type} (world : World ε) (operation : Except Files.Cause (α × Files.Disk)) :
    Except Files.Cause α × World ε :=
  match operation with
  | .ok (answer, disk) => (.ok answer, { world with disk := disk })
  | .error cause => (.error cause, world)

/-- Answers an effect. Records and urls are listed from the first to the last. -/
def answer (outside : Outside ε) (world : World ε) : (effect : Effect) → effect.Answer × World ε
  | .now =>
    let (instant, state) := outside.now world.outside
    (instant, { world with outside := state })
  | .fetch url =>
    let (reply, state) := outside.fetch url world.outside
    (reply, { world with outside := state, urls := world.urls ++ [url] })
  | .log record => ((), { world with records := world.records ++ [record] })
  | .retrieve key => (world.memory.lookup key, world)
  | .remember key snapshot =>
    ((), { world with memory := (key, snapshot) :: world.memory })
  | .inspect path => (world.disk.kindAt path, world)
  | .readFile path => (world.disk.contentAt path, world)
  | .makeDirectory path =>
    world.change ((world.disk.makeDirectory path).map fun disk => ((), disk))
  | .makeTemporary directory => world.change (world.disk.makeTemporary directory)
  | .writeTemporary temporary content =>
    let (answer, disk) := world.disk.writeTemporary temporary content
    (answer, { world with disk := disk })
  | .moveTemporary temporary target =>
    world.change ((world.disk.moveTemporary temporary target).map fun disk => ((), disk))
  | .dropTemporary temporary => ((), { world with disk := world.disk.erase temporary })

end World

namespace Program

/-- Runs a program in a world. -/
def run {α ε : Type} (outside : Outside ε) : Program α → World ε → α × World ε
  | done result, world => (result, world)
  | perform effect next, world =>
    let (answer, world) := world.answer outside effect
    (next answer).run outside world

variable {α β ε : Type} (outside : Outside ε)

@[simp] theorem run_done (result : α) (world : World ε) :
    (done result).run outside world = (result, world) := rfl

@[simp] theorem run_perform (effect : Effect) (next : effect.Answer → Program α)
    (world : World ε) :
    (perform effect next).run outside world =
      (next (world.answer outside effect).1).run outside (world.answer outside effect).2 := rfl

/-- A program that goes on runs the first part and then the second. -/
@[simp] theorem run_bind (program : Program α) (next : α → Program β) (world : World ε) :
    (program >>= next).run outside world =
      (next (program.run outside world).1).run outside (program.run outside world).2 := by
  change (program.bind next).run outside world = _
  induction program generalizing world with
  | done => rfl
  | perform effect rest inductionHypothesis =>
    simp only [Program.bind, run_perform]
    exact inductionHypothesis ..

end Program
end QuizFeed
