import QuizFeed.Proofs.Cache.Bytes
import QuizFeed.Proofs.Cache.Places

/-!
# Places under other keys

A place may keep in one world under some keys what it keeps in another world under others
(`Place.Mirrors`). It still does after a snapshot was put under one of the keys in the first world
and under its counterpart in the second (`Mirrors.set`): which keys share what is put under them is
the same on both sides, and in a directory nothing but the bytes of the files counts.
-/

namespace QuizFeed.Cache.Place

variable {ε ε' : Type}

/-- Whether snapshots can be put into a place under some keys. -/
def Takes : Place → (String → Prop) → World ε → Prop
  | memory, _, _ => True
  | files directory, keys, world => Writable directory keys world.disk

/-- Whether the same lies in a place under a key in one world and under another key in another
world: in a directory, the same bytes, of which the same can be read. -/
def Matches : Place → String → String → World ε → World ε' → Prop
  | memory, key, other, first, second =>
    memoryContents first.memory key = memoryContents second.memory other
  | files directory, key, other, first, second =>
    fileBytes directory first.disk key = fileBytes directory second.disk other ∧
      fileContents directory first.disk key = fileContents directory second.disk other

/-- Whether a place keeps under some keys in one world what it keeps under their counterparts in
another world, and takes snapshots under all of them. -/
structure Mirrors (place : Place) (pairs : String → String → Prop) (first : World ε)
    (second : World ε') : Prop where
  takes : place.Takes (fun key => ∃ other, pairs key other) first
  takesSecond : place.Takes (fun other => ∃ key, pairs key other) second
  apart_iff : ∀ {key other placed placedSecond}, pairs key other → pairs placed placedSecond →
    (place.Apart key placed ↔ place.Apart other placedSecond)
  kept : ∀ {key other}, pairs key other → place.Matches key other first second

section Steps

variable {place : Place} {pairs : String → String → Prop} {keys : String → Prop}
  {key other placed placedSecond : String} {before after first next : World ε}
  {second nextSecond : World ε'} {outside : Outside ε} {outside' : Outside ε'}

/-- A key is not kept apart from itself. -/
theorem not_apart_self (place : Place) (key : String) : ¬ place.Apart key key := by
  cases place with
  | memory => exact fun different => different rfl
  | files => exact fun different => different rfl

/-- A place that takes some keys takes fewer of them. -/
theorem Takes.mono {fewer : String → Prop} (takes : place.Takes keys before)
    (less : ∀ key, fewer key → keys key) : place.Takes fewer before := by
  cases place with
  | memory => trivial
  | files => exact Writable.mono takes less

/-- A place takes the same keys as long as nothing in it changes. -/
theorem Takes.of_same (takes : place.Takes keys before) (same : place.Same before after) :
    place.Takes keys after := by
  cases place with
  | memory => trivial
  | files directory =>
    change Writable directory keys after.disk
    rwa [show after.disk = before.disk from same]

/-- Counterparts have the same contents. -/
theorem Matches.contents_eq (matched : place.Matches key other first second) :
    place.contents first key = place.contents second other := by
  cases place with
  | memory => exact matched
  | files => exact matched.2

/-- Counterparts remain so as long as nothing changes in the places of either. -/
theorem Matches.of_same (matched : place.Matches key other first second)
    (same : place.Same first next) (sameSecond : place.Same second nextSecond) :
    place.Matches key other next nextSecond := by
  cases place with
  | memory =>
    change memoryContents next.memory key = memoryContents nextSecond.memory other
    rw [show next.memory = first.memory from same,
      show nextSecond.memory = second.memory from sameSecond]
    exact matched
  | files directory =>
    change fileBytes directory next.disk key = fileBytes directory nextSecond.disk other ∧
      fileContents directory next.disk key = fileContents directory nextSecond.disk other
    rw [show next.disk = first.disk from same, show nextSecond.disk = second.disk from sameSecond]
    exact matched

/-- Mirror images remain so as long as nothing changes in the places of either. -/
theorem Mirrors.of_same (mirrors : place.Mirrors pairs first second)
    (same : place.Same first next) (sameSecond : place.Same second nextSecond) :
    place.Mirrors pairs next nextSecond where
  takes := mirrors.takes.of_same same
  takesSecond := mirrors.takesSecond.of_same sameSecond
  apart_iff := mirrors.apart_iff
  kept := fun pair => (mirrors.kept pair).of_same same sameSecond

/-- In memory a snapshot that is put under two keys is kept under them only. -/
theorem Matches.after_remember (matched : memory.Matches key other first second)
    (same : key = placed ↔ other = placedSecond) (snapshot : Snapshot) :
    memory.Matches key other ((memoryStore.set placed snapshot).run outside first).2
      ((memoryStore.set placedSecond snapshot).run outside' second).2 := by
  change memoryContents ((placed, snapshot) :: first.memory) key =
    memoryContents ((placedSecond, snapshot) :: second.memory) other
  rw [memoryContents_cons, memoryContents_cons]
  unfold Contents.put
  rw [show memoryContents first.memory key = memoryContents second.memory other from matched]
  simp only [same]

/-- In a directory a snapshot that is saved for two keys is in all files that share a name with one
of theirs. -/
theorem Matches.after_save {directory : Path} {others : String → Prop}
    (matched : (files directory).Matches key other first second)
    (writable : Writable directory keys first.disk)
    (writableSecond : Writable directory others second.disk)
    (used : keys key) (usedSecond : others other) (usedPlaced : keys placed)
    (usedPlacedSecond : others placedSecond)
    (same : fingerprint key = fingerprint placed ↔ fingerprint other = fingerprint placedSecond)
    (snapshot : Snapshot) :
    (files directory).Matches key other ((save directory placed snapshot).run outside first).2
      ((save directory placedSecond snapshot).run outside' second).2 := by
  obtain ⟨⟨_, ready⟩, bytes⟩ := save_writes outside writable usedPlaced snapshot
  obtain ⟨⟨_, readySecond⟩, bytesSecond⟩ :=
    save_writes outside' writableSecond usedPlacedSecond snapshot
  have bytesAlike := bytes key
  rw [matched.1] at bytesAlike
  simp only [same] at bytesAlike
  rw [← bytesSecond] at bytesAlike
  constructor
  · exact bytesAlike
  · rw [ready.fileContents_eq used, readySecond.fileContents_eq usedSecond, bytesAlike]

/-- After a snapshot was put under one of the keys and under its counterpart, a place still keeps
the same under all of them. -/
theorem Mirrors.set (mirrors : place.Mirrors pairs first second) (pair : pairs placed placedSecond)
    (snapshot : Snapshot) :
    place.Mirrors pairs ((place.store.set placed snapshot).run outside first).2
      ((place.store.set placedSecond snapshot).run outside' second).2 := by
  cases place with
  | memory =>
    refine ⟨trivial, trivial, mirrors.apart_iff, fun pairOther => ?_⟩
    have same := Decidable.not_iff_not.mp (mirrors.apart_iff pairOther pair)
    exact (mirrors.kept pairOther).after_remember same snapshot
  | files directory =>
    obtain ⟨⟨_, ready⟩, _⟩ := save_writes outside mirrors.takes ⟨_, pair⟩ snapshot
    obtain ⟨⟨_, readySecond⟩, _⟩ := save_writes outside' mirrors.takesSecond ⟨_, pair⟩ snapshot
    refine ⟨ready.accepts.toWritable, readySecond.accepts.toWritable, mirrors.apart_iff,
      fun pairOther => ?_⟩
    have same := Decidable.not_iff_not.mp (mirrors.apart_iff pairOther pair)
    exact (mirrors.kept pairOther).after_save mirrors.takes mirrors.takesSecond ⟨_, pairOther⟩
      ⟨_, pairOther⟩ ⟨_, pair⟩ ⟨_, pair⟩ same snapshot

variable {contents others : Contents} {put putSecond : Option (String × Snapshot)}

/-- A place still keeps the same when nothing is put into it in both worlds, or a snapshot under a
key and its counterpart. -/
theorem Mirrors.of_leaves (mirrors : place.Mirrors pairs first second)
    (leaves : place.store.Leaves outside (place.Holds first) contents next put)
    (leavesSecond : place.store.Leaves outside' (place.Holds second) others nextSecond putSecond)
    (counterparts : Option.Rel (fun stored storedSecond =>
      pairs stored.1 storedSecond.1 ∧ stored.2 = storedSecond.2) put putSecond) :
    place.Mirrors pairs next nextSecond := by
  cases leaves with
  | same held =>
    cases leavesSecond with
    | same heldSecond => exact mirrors.of_same held.1 heldSecond.1
    | set => cases counterparts
  | set held disk memory =>
    cases leavesSecond with
    | same => cases counterparts
    | set heldSecond diskSecond memorySecond =>
      cases counterparts with
      | some stored =>
        obtain ⟨pair, rfl⟩ := stored
        exact ((mirrors.of_same held.1 heldSecond.1).set pair _).of_same
          (place.same_of_disk_memory disk memory)
          (place.same_of_disk_memory diskSecond memorySecond)

end Steps

end QuizFeed.Cache.Place
