import QuizFeed.Cache.Store
import QuizFeed.Proofs.Program.Events

/-!
# The contents of stores

What a store keeps is a function from keys to snapshots. `Store.Reads` says that the worlds of a
store hold contents which `get` reports, for the keys that are in use, and `Store.Keeps` that `set`
changes them at one key. The memory store keeps contents for all keys (`memoryStore_keeps`).
-/

namespace QuizFeed.Cache

/-- The snapshot under each key. -/
abbrev Contents := String → Option Snapshot

/-- The contents without snapshots. -/
def Contents.none : Contents :=
  fun _ => .none

/-- The contents with a snapshot under a key, instead of the one that was there. -/
def Contents.put (contents : Contents) (key : String) (snapshot : Snapshot) : Contents :=
  fun other => if other = key then some snapshot else contents other

@[simp] theorem Contents.put_same (contents : Contents) (key : String) (snapshot : Snapshot) :
    contents.put key snapshot key = some snapshot :=
  if_pos rfl

/-- Putting a snapshot under a key leaves what is under any other. -/
theorem Contents.put_other (contents : Contents) {key other : String} (snapshot : Snapshot)
    (different : other ≠ key) : contents.put key snapshot other = contents other :=
  if_neg different

/-- The contents with a snapshot that was put under a key, if one was. -/
def Contents.update (contents : Contents) : Option (String × Snapshot) → Contents
  | .none => contents
  | some (key, snapshot) => contents.put key snapshot

/-- Different tokens have different keys. -/
theorem keyOf_injective {first second : String} (same : keyOf first = keyOf second) :
    first = second := by
  have lists := congrArg String.toList same
  simp only [keyOf, String.toList_append] at lists
  exact String.toList_inj.mp (List.append_cancel_left lists)

/-- A store holds contents for some keys: whether it does depends on the disk and the memory of a
world only, `get` reports them and changes nothing about them. -/
structure Store.Reads {ε : Type} (store : Store) (outside : Outside ε) (keys : String → Prop)
    (holds : World ε → Contents → Prop) : Prop where
  settled : ∀ {before after : World ε} {contents}, holds before contents →
    after.disk = before.disk → after.memory = before.memory → holds after contents
  get_eq : ∀ {world : World ε} {contents key}, holds world contents → keys key →
    ((store.get key).run outside world).1 = contents key
  get_holds : ∀ {world : World ε} {contents key}, holds world contents → keys key →
    holds ((store.get key).run outside world).2 contents
  get_events : ∀ (world : World ε) (key), (store.get key).events outside world = []
  set_events : ∀ (world : World ε) (key snapshot),
    (store.set key snapshot).events outside world = []

/-- A store keeps contents for some keys: it holds them, and `set` puts one snapshot. -/
structure Store.Keeps {ε : Type} (store : Store) (outside : Outside ε) (keys : String → Prop)
    (holds : World ε → Contents → Prop) : Prop extends store.Reads outside keys holds where
  set_holds : ∀ {world : World ε} {contents key} (snapshot), holds world contents → keys key →
    holds ((store.set key snapshot).run outside world).2 (contents.put key snapshot)

/-- How a store that held some contents leaves a world: with nothing put, it holds them still; with
one snapshot put, it was asked to do so where it held them. -/
inductive Store.Leaves {ε : Type} (store : Store) (outside : Outside ε)
    (holds : World ε → Contents → Prop) (contents : Contents) (world : World ε) :
    Option (String × Snapshot) → Prop where
  | same (held : holds world contents) : store.Leaves outside holds contents world .none
  | set {before key snapshot} (held : holds before contents)
      (disk : world.disk = ((store.set key snapshot).run outside before).2.disk)
      (memory : world.memory = ((store.set key snapshot).run outside before).2.memory) :
      store.Leaves outside holds contents world (some (key, snapshot))

/-- A store that keeps contents holds what is left. -/
theorem Store.Keeps.holds_of_leaves {ε : Type} {store : Store} {outside : Outside ε}
    {keys : String → Prop} {holds : World ε → Contents → Prop} {contents : Contents}
    {world : World ε} {put : Option (String × Snapshot)} (keeps : store.Keeps outside keys holds)
    (used : ∀ key snapshot, put = some (key, snapshot) → keys key)
    (leaves : store.Leaves outside holds contents world put) :
    holds world (contents.update put) := by
  cases leaves with
  | same held => exact held
  | set held disk memory =>
    exact keeps.settled (keeps.set_holds _ held (used _ _ rfl)) disk memory

/-- The contents of a memory. -/
def memoryContents (memory : List (String × Snapshot)) : Contents :=
  fun key => memory.lookup key

/-- The last snapshot that was remembered under a key is the one that counts. -/
theorem memoryContents_cons (key : String) (snapshot : Snapshot)
    (memory : List (String × Snapshot)) :
    memoryContents ((key, snapshot) :: memory) = (memoryContents memory).put key snapshot := by
  funext other
  unfold memoryContents Contents.put
  rw [List.lookup_cons]
  by_cases same : other = key
  · simp [same]
  · simp [same, beq_eq_false_iff_ne.mpr same]

/-- The memory store keeps what its world has in memory, for all keys. -/
theorem memoryStore_keeps {ε : Type} (outside : Outside ε) :
    memoryStore.Keeps outside (fun _ => True)
      (fun world contents => memoryContents world.memory = contents) where
  settled := by
    rintro before after _ rfl - same
    rw [same]
  get_eq := by
    rintro world _ key rfl _
    rfl
  get_holds := by
    rintro world _ key rfl _
    rfl
  get_events := by
    intro world key
    rfl
  set_holds := by
    rintro world _ key snapshot rfl _
    exact memoryContents_cons key snapshot world.memory
  set_events := by
    intro world key snapshot
    rfl

end QuizFeed.Cache
