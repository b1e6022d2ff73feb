import Mathlib.Data.List.Dedup
import Mathlib.Data.List.Induction
import QuizFeed.Proofs.Feed.Lookup

/-!
# Histories of feeds

A feed is used by inserting entries and by asking for some of them. What it answers depends only on
the entries that were inserted before, and of these only on the latest one of each uid: this is kept
by every operation (`Represents.perform`), so it holds after every history (`represents_after`).
-/

namespace QuizFeed

namespace Text

/-- Bytes are compared as lists of numbers are. -/
theorem bytesPrecede_iff_lt {first second : List UInt8} :
    bytesPrecede first second = true ↔ first < second := by
  induction first generalizing second with
  | nil => cases second <;> simp [bytesPrecede]
  | cons left lefts inductionHypothesis =>
    cases second with
    | nil => simp [bytesPrecede]
    | cons right rights =>
      rw [List.cons_lt_cons_iff, ← inductionHypothesis, UInt8.lt_iff_toNat_lt,
        ← UInt8.toNat_inj]
      simp only [bytesPrecede]
      split
      · simp [*]
      · split
        · have different : left.toNat ≠ right.toNat := by omega
          simp [*]
        · have same : left.toNat = right.toNat := by omega
          simp [*]

/-- Texts are ordered by their bytes. -/
theorem precedes_iff_lt {first second : String} :
    precedes first second = true ↔ bytes first < bytes second :=
  bytesPrecede_iff_lt

end Text

namespace Feed

/-- What a feed is used for. -/
inductive Operation where
  | insert (entry : Entry)
  | get (uid : String)
  | size
  | isEmpty
  | toList

namespace Operation

/-- What answers an operation. -/
def Answer : Operation → Type
  | insert _ => Option Entry
  | get _ => Option Entry
  | size => Nat
  | isEmpty => Bool
  | toList => List Entry

/-- The answer of a feed to an operation, and the feed after it. -/
def perform (feed : Feed) : (operation : Operation) → operation.Answer × Feed
  | insert entry => feed.insert entry
  | get uid => (feed.get? uid, feed)
  | size => (feed.size, feed)
  | isEmpty => (feed.isEmpty, feed)
  | toList => (feed.toList, feed)

/-- The entry that an operation inserts. -/
def inserted? : Operation → Option Entry
  | insert entry => some entry
  | _ => none

end Operation

/-- The feed after some operations on the empty feed. -/
def after (history : List Operation) : Feed :=
  history.foldl (fun feed operation => (operation.perform feed).2) empty

/-- The entries that some operations insert. -/
def insertions (history : List Operation) : List Entry :=
  history.filterMap Operation.inserted?

/-- The entries with a uid, in the order in which they were inserted. -/
def under (uid : String) (entries : List Entry) : List Entry :=
  entries.filter fun entry => entry.uid == uid

/-- Histories that insert the same entries, in the same order among those with one uid. -/
def Reorders (first second : List Operation) : Prop :=
  ∀ uid, under uid (insertions first) = under uid (insertions second)

/-- The latest entry with a uid. -/
def latest? (uid : String) (entries : List Entry) : Option Entry :=
  (under uid entries).getLast?

/-- The uids of some entries, each once. -/
def uidsOf (entries : List Entry) : List String :=
  (entries.map Entry.uid).dedup

/-- The latest entry of each uid, by the bytes of the uids. -/
structure Lists (entries listed : List Entry) : Prop where
  ascending : listed.Pairwise fun earlier later => Text.bytes earlier.uid < Text.bytes later.uid
  uids : ∀ uid, uid ∈ listed.map Entry.uid ↔ uid ∈ entries.map Entry.uid
  latest : ∀ entry ∈ listed, latest? entry.uid entries = some entry

/-- Whether an answer is right after some entries were inserted. -/
def Operation.IsRight (entries : List Entry) : (operation : Operation) → operation.Answer → Prop
  | insert entry, replaced => replaced = latest? entry.uid entries
  | get uid, found => found = latest? uid entries
  | size, count => count = (uidsOf entries).length
  | isEmpty, answer => answer = true ↔ (uidsOf entries).length = 0
  | toList, listed => Lists entries listed

/-- A feed that answers with the latest of some entries. -/
def Represents (feed : Feed) (entries : List Entry) : Prop :=
  ∀ uid, feed.get? uid = latest? uid entries

variable {feed : Feed} {entries : List Entry} {entry : Entry} {uid : String}

/-- The last entry with a uid has this uid. -/
theorem uid_of_latest? (found : latest? uid entries = some entry) : entry.uid = uid := by
  have member := List.mem_of_getLast? found
  exact beq_iff_eq.mp (List.mem_filter.mp member).2

/-- There is a latest entry with a uid if there is one at all. -/
theorem exists_latest?_iff :
    (∃ entry, latest? uid entries = some entry) ↔ uid ∈ entries.map Entry.uid := by
  unfold latest?
  rw [← Option.isSome_iff_exists, List.getLast?_isSome, ne_eq, under, List.filter_eq_nil_iff]
  simp

/-- An entry that is added last is the last one with its uid. -/
theorem latest?_append (uid : String) (entries : List Entry) (entry : Entry) :
    latest? uid (entries ++ [entry]) =
      if uid = entry.uid then some entry else latest? uid entries := by
  unfold latest? under
  rw [List.filter_append]
  by_cases same : entry.uid = uid
  · simp [same]
  · simp [same, Ne.symm same]

namespace Represents

/-- Every operation keeps it that the latest entries are found. -/
theorem perform (represents : feed.Represents entries) (operation : Operation) :
    (operation.perform feed).2.Represents (entries ++ operation.inserted?.toList) := by
  cases operation with
  | insert entry =>
    intro uid
    change (feed.put entry.uid entry).get? uid = latest? uid (entries ++ [entry])
    rw [get?_put, latest?_append, represents uid]
  | get _ | size | isEmpty | toList => exact (List.append_nil entries).symm ▸ represents

variable (represents : feed.Represents entries)
include represents

/-- A feed that represents entries has each of them under its uid. -/
theorem isKeyed : feed.IsKeyed := by
  intro key entry found
  rw [represents key] at found
  exact (uid_of_latest? found).symm

/-- A feed that represents entries has their uids as keys. -/
theorem mem_keys_iff : uid ∈ feed.keys ↔ uid ∈ entries.map Entry.uid := by
  rw [Feed.mem_keys_iff, represents uid, exists_latest?_iff]

/-- A feed has as many keys as there are uids. -/
theorem size_eq : feed.size = (uidsOf entries).length := by
  have permuted : feed.keys.Perm (uidsOf entries) := by
    refine (List.perm_ext_iff_of_nodup ?_ (List.nodup_dedup _)).mpr fun uid => ?_
    · exact nodup_keys feed
    · rw [represents.mem_keys_iff]
      exact List.mem_dedup.symm
  rw [← permuted.length_eq, keys, List.length_map, size]

/-- A feed that represents entries lists them. -/
theorem lists : Lists entries feed.toList := by
  have keyed := represents.isKeyed
  constructor
  case ascending => exact keyed.ascending_toList.imp Text.precedes_iff_lt.mp
  case uids =>
    intro uid
    rw [← represents.mem_keys_iff, Feed.mem_keys_iff, List.mem_map]
    constructor
    · rintro ⟨entry, listed, rfl⟩
      exact ⟨entry, keyed.mem_toList_iff.mp listed⟩
    · rintro ⟨entry, found⟩
      obtain rfl := keyed uid entry found
      exact ⟨entry, keyed.mem_toList_iff.mpr found, rfl⟩
  case latest =>
    intro entry listed
    rw [← represents entry.uid]
    exact keyed.mem_toList_iff.mp listed

/-- Every operation is answered by the latest entries. -/
theorem isRight (operation : Operation) :
    operation.IsRight entries (operation.perform feed).1 := by
  cases operation with
  | insert entry => exact represents entry.uid
  | get uid => exact represents uid
  | size => exact represents.size_eq
  | isEmpty =>
    change feed.isEmpty = true ↔ _
    rw [← represents.size_eq, isEmpty, size, List.isEmpty_iff, List.length_eq_zero_iff]
  | toList => exact represents.lists

end Represents

/-- After every history, the latest entries are found. -/
theorem represents_after (history : List Operation) :
    (after history).Represents (insertions history) := by
  induction history using List.reverseRecOn with
  | nil => exact fun _ => rfl
  | append_singleton earlier operation inductionHypothesis =>
    have step := inductionHypothesis.perform operation
    unfold after insertions at *
    rw [List.foldl_append, List.filterMap_append]
    cases operation <;> exact step

/-- A feed does not show in which order entries with different uids were inserted. -/
theorem Reorders.after_eq {first second : List Operation} (reorders : Reorders first second) :
    after first = after second := by
  refine ext_get? fun uid => ?_
  rw [represents_after first uid, represents_after second uid, latest?, reorders uid, latest?]

/-- A feed is a map from uids to their latest entries. After every history, an operation is answered
by the entries that were inserted; asking changes nothing, and inserting an entry only changes what
is found under its uid. How entries with different uids took turns makes no difference. -/
theorem perform_after (history : List Operation) (operation : Operation) :
    let feed := after history
    let result := operation.perform feed
    operation.IsRight (insertions history) result.1 ∧
      (operation.inserted? = none → result.2 = feed) ∧
      (∀ entry, operation = .insert entry → result.2.get? entry.uid = some entry ∧
        ∀ uid, uid ≠ entry.uid → result.2.get? uid = feed.get? uid) ∧
      ∀ other, Reorders other history → after other = feed := by
  refine ⟨(represents_after history).isRight operation, ?_, ?_, fun other => Reorders.after_eq⟩
  · intro asks
    cases operation with
    | insert entry => cases asks
    | get _ | size | isEmpty | toList => rfl
  · rintro entry rfl
    have found (uid : String) := get?_put (after history) entry.uid uid entry
    exact ⟨(found entry.uid).trans (if_pos rfl),
      fun uid different => (found uid).trans (if_neg different)⟩

/-- Three uids whose order by bytes is not the one by halves of surrogate pairs, one of them
replaced. -/
theorem perform_after_replaced :
    let face : Entry := ⟨"😀", "A", .published, none⟩
    let early : Entry := ⟨"a", "B", .published, none⟩
    let stop : Entry := ⟨"。", "C", .unpublished, some "i"⟩
    let late : Entry := ⟨"a", "D", .unpublished, none⟩
    let history : List Operation := [.insert face, .size, .insert early, .insert stop, .get "a"]
    let whole := history ++ [.insert late]
    let other : List Operation := [.insert early, .insert late, .toList, .insert stop, .insert face]
    let result := Operation.perform (after history) (.insert late)
    result.1 = some early ∧ result.2.get? "a" = some late ∧
      result.2.get? "。" = (after history).get? "。" ∧
      Lists (insertions whole) [late, stop, face] ∧ after other = after whole := by
  intro face early stop late history whole other result
  obtain ⟨replaced, -, changed, -⟩ := perform_after history (.insert late)
  obtain ⟨filed, kept⟩ := changed late rfl
  obtain ⟨listed, -, -, reordered⟩ := perform_after whole .toList
  have inOrder : (after whole).toList = [late, stop, face] := by decide
  change Lists (insertions whole) (after whole).toList at listed
  rw [inOrder] at listed
  refine ⟨replaced, filed, kept "。" (by decide), listed, reordered other fun uid => ?_⟩
  change under uid [early, late, stop, face] = under uid [face, early, stop, late]
  unfold under
  by_cases isFace : face.uid = uid
  · subst isFace
    decide
  by_cases isStop : stop.uid = uid
  · subst isStop
    decide
  simp [List.filter_cons, isFace, isStop]

end Feed

end QuizFeed
