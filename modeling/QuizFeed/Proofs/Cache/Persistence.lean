import QuizFeed.Proofs.Cache.Files

/-!
# File stores answer like memory stores

Operations on a store are compared with what they do to contents (`Operation.answer` and
`Operation.after`). A store that keeps contents answers operations one by one as the contents do
(`Operation.run_perform`). Hence a directory that starts without files for the keys in use answers
like an empty memory, whatever happens outside of the directory between two operations.
-/

namespace QuizFeed.Cache

open Files

/-- Something that is asked of a store. -/
inductive Operation where
  | set (key : String) (snapshot : Snapshot)
  | get (key : String)

namespace Operation

/-- The key of an operation. -/
def key : Operation → String
  | set key _ => key
  | get key => key

/-- Performs an operation on a store. -/
def perform (store : Store) : Operation → Program (Option Snapshot)
  | set key snapshot => do
    store.set key snapshot
    pure none
  | get key => store.get key

/-- What contents answer to an operation. -/
def answer (contents : Contents) : Operation → Option Snapshot
  | set _ _ => none
  | get key => contents key

/-- What an operation makes of contents. -/
def after (contents : Contents) : Operation → Contents
  | set key snapshot => contents.put key snapshot
  | get _ => contents

/-- What contents answer to operations one after the other. -/
def answers : List Operation → Contents → List (Option Snapshot)
  | [], _ => []
  | operation :: rest, contents =>
    operation.answer contents :: answers rest (operation.after contents)

variable {ε : Type} {outside : Outside ε} {store : Store} {keys : String → Prop}
  {holds : World ε → Contents → Prop} {contents : Contents}

/-- A store that keeps contents answers as they do. -/
theorem run_perform (operation : Operation) (world : World ε)
    (keeps : store.Keeps outside keys holds) (held : holds world contents)
    (used : keys operation.key) :
    ((operation.perform store).run outside world).1 = operation.answer contents ∧
      holds ((operation.perform store).run outside world).2 (operation.after contents) := by
  cases operation with
  | set key snapshot =>
    simp only [perform, Program.run_bind, Program.run_pure]
    exact ⟨rfl, keeps.set_holds snapshot held used⟩
  | get key => exact ⟨keeps.get_eq held used, keeps.get_holds held used⟩

end Operation

/-- The answers of a memory store. -/
def memoryAnswers {ε : Type} (outside : Outside ε) :
    List Operation → World ε → List (Option Snapshot)
  | [], _ => []
  | operation :: rest, world =>
    let ended := (operation.perform memoryStore).run outside world
    ended.1 :: memoryAnswers outside rest ended.2

/-- The answers of file stores in a directory, one for each operation. An operation finds a world
of its own, but for the disk that the one before it leaves. -/
def fileAnswers {ε : Type} (outside : Outside ε) (directory : Path) :
    List (Operation × World ε) → Disk → List (Option Snapshot)
  | [], _ => []
  | (operation, world) :: rest, disk =>
    let ended := (operation.perform (fileStore directory)).run outside { world with disk := disk }
    ended.1 :: fileAnswers outside directory rest ended.2.disk

variable {ε ε' : Type} (outside : Outside ε) (outside' : Outside ε')

/-- A memory answers operations as its contents say. -/
theorem memoryAnswers_eq (operations : List Operation) (world : World ε) :
    memoryAnswers outside operations world =
      Operation.answers operations (memoryContents world.memory) := by
  induction operations generalizing world with
  | nil => rfl
  | cons operation rest inductionHypothesis =>
    obtain ⟨answer, held⟩ :=
      operation.run_perform world (memoryStore_keeps outside) rfl trivial
    rw [memoryAnswers, Operation.answers, answer, inductionHypothesis, held]

section Files

variable {directory : Path} {keys : String → Prop}

/-- A directory answers operations as the contents that are stored in it say, if no two keys share a
file. -/
theorem fileAnswers_eq
    (apart : ∀ first second, keys first → keys second → fingerprint first = fingerprint second →
      first = second)
    {attempts : List (Operation × World ε)} (used : ∀ attempt ∈ attempts, keys attempt.1.key)
    {disk : Disk} {contents : Contents} (stored : Stored directory keys disk contents) :
    fileAnswers outside directory attempts disk =
      Operation.answers (attempts.map Prod.fst) contents := by
  induction attempts generalizing disk contents with
  | nil => rfl
  | cons attempt rest inductionHypothesis =>
    obtain ⟨operation, world⟩ := attempt
    obtain ⟨usedFirst, usedOthers⟩ := List.forall_mem_cons.mp used
    have keeps := fileStore_keeps outside directory apart
    obtain ⟨answer, after⟩ :=
      operation.run_perform { world with disk := disk } keeps stored usedFirst
    rw [fileAnswers, List.map_cons, Operation.answers, answer,
      inductionHypothesis usedOthers after]

/-- Whether a directory is there or can be made, takes files, and then holds nothing under the names
of the files for some keys, the paths of which are shorter than 4096 bytes. -/
structure Vacant (directory : Path) (keys : String → Prop) (disk : Disk) : Prop where
  made : (prepared directory disk).1 = .ok ()
  working : directory.text = "" → disk.isDirectory disk.working = true
  takes : ∀ size, disk.TakesFile directory size
  short : ∀ key, keys key → (filePath directory key).text.utf8ByteSize < Disk.pathLimit
  absent : ∀ key, keys key →
    (prepared directory disk).2.node? (disk.destination directory ++ [fileName key]) = none

/-- A directory without cache files is writable. -/
theorem Vacant.writable {disk : Disk} (vacant : Vacant directory keys disk) :
    Writable directory keys disk := by
  refine ⟨vacant.made, vacant.working, vacant.takes, vacant.short, fun key used => ?_⟩
  rw [Bool.eq_false_iff]
  intro isDirectory
  rw [Disk.isDirectory_iff, vacant.absent key used] at isDirectory
  cases isDirectory

/-- A vacant directory takes files and has nothing in store. -/
theorem Vacant.stored {disk : Disk} (vacant : Vacant directory keys disk) :
    Stored directory keys disk .none := by
  obtain ⟨location, ready⟩ := vacant.writable.ready
  have grows := prepared_grows directory disk
  have missing : ∀ key, keys key →
      (prepared directory disk).2.contentAt (filePath directory key) = .error .notFound := by
    intro key used
    rw [ready.contentAt_eq used, ready.leads.eq_destination,
      Disk.destination_of_working grows.working, vacant.absent key used]
  have nothing : ∀ key, keys key → fileContents directory disk key = none := by
    intro key used
    unfold fileContents
    cases found : disk.contentAt (filePath directory key) with
    | error cause => rfl
    | ok content =>
      have absent := missing key used
      rw [contentAt_prepared found] at absent
      cases absent
  refine ⟨⟨vacant.writable, fun key used => ?_⟩, fun key used => (nothing key used).symm⟩
  rw [nothing key used, fileContents, missing key used]
  rfl

end Files

/-- File stores in a directory that starts without files for the keys in use answer as a memory
store does that starts empty, if no two of these keys have the same fingerprint. -/
theorem fileAnswers_eq_memoryAnswers (directory : Path) (attempts : List (Operation × World ε))
    (disk : Disk) (world : World ε')
    (vacant : Vacant directory (fun key => ∃ attempt ∈ attempts, attempt.1.key = key) disk)
    (apart : ∀ first ∈ attempts, ∀ second ∈ attempts,
      fingerprint first.1.key = fingerprint second.1.key → first.1.key = second.1.key)
    (empty : world.memory = []) :
    fileAnswers outside directory attempts disk =
      memoryAnswers outside' (attempts.map Prod.fst) world := by
  have apartKeys : ∀ first second, (∃ attempt ∈ attempts, attempt.1.key = first) →
      (∃ attempt ∈ attempts, attempt.1.key = second) → fingerprint first = fingerprint second →
      first = second := by
    rintro _ _ ⟨first, memberFirst, rfl⟩ ⟨second, memberSecond, rfl⟩ same
    exact apart first memberFirst second memberSecond same
  rw [fileAnswers_eq outside apartKeys (fun attempt member => ⟨attempt, member, rfl⟩)
    vacant.stored, memoryAnswers_eq, empty]
  rfl

/-- What is put into a new directory is found there later, also before the year 0 and with a title
that has to be escaped. -/
theorem fileAnswers_eq_memoryAnswers_reread :
    let world : World Unit := ⟨⟨[], [], []⟩, [], [], [], ()⟩
    let entry : Entry := { uid := "u", title := "\"a\\\n", status := .published, image := none }
    let snapshot : Snapshot := ⟨Feed.empty.put "other" entry, ⟨-70000000000, 1000000, by decide⟩⟩
    let attempts := [(Operation.set "k" snapshot, world), (.get "k", world)]
    fileAnswers idle ⟨"cache"⟩ attempts world.disk =
        memoryAnswers idle (attempts.map Prod.fst) world ∧
      memoryAnswers idle (attempts.map Prod.fst) world = [none, some snapshot] := by
  intro world entry snapshot attempts
  have sameKey : ∀ attempt ∈ attempts, attempt.1.key = "k" := by
    simp [attempts, Operation.key]
  refine ⟨fileAnswers_eq_memoryAnswers idle idle ⟨"cache"⟩ attempts world.disk world
    ⟨?_, ?_, Files.Disk.takesFile_of_sound rfl (by decide), ?_, ?_⟩ ?_ rfl, rfl⟩
  · exact eq_ok_of_toOption (by decide +kernel)
  · exact fun empty => absurd empty (by decide)
  · rintro _ ⟨attempt, member, rfl⟩
    rw [sameKey attempt member]
    decide +kernel
  · rintro _ ⟨attempt, member, rfl⟩
    rw [sameKey attempt member]
    exact Option.isNone_iff_eq_none.mp (by decide +kernel)
  · intro first memberFirst second memberSecond _
    rw [sameKey first memberFirst, sameKey second memberSecond]

end QuizFeed.Cache
