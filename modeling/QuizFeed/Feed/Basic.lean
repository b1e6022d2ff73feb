import QuizFeed.Feed.Entry
import QuizFeed.Text.Order

/-!
# Feeds

A feed maps keys to entries. It is kept as the list of its pairs in strictly ascending order of
the keys' UTF-8 bytes, so two feeds with the same answers are equal (`Feed.ext_get?`). `insert`
files an entry under its own uid; only a feed read back from storage may hold an entry under a
different key, through `put`.
-/

namespace QuizFeed

/-- A finite map from keys to entries, as pairs with strictly ascending keys. -/
structure Feed where
  pairs : List (String × Entry)
  ascending : pairs.Pairwise fun earlier later => Text.precedes earlier.1 later.1 = true
  deriving DecidableEq

namespace Feed

/-- Two feeds with the same pairs are equal. -/
@[ext] theorem ext {left right : Feed} (equal : left.pairs = right.pairs) : left = right := by
  cases left; cases right; cases equal; rfl

/-- The feed without entries. -/
def empty : Feed :=
  ⟨[], List.Pairwise.nil⟩

instance : Inhabited Feed := ⟨empty⟩

/-- Puts a pair at its place in an ascending list, instead of the pair with the same key. -/
def placePair (key : String) (entry : Entry) : List (String × Entry) → List (String × Entry)
  | [] => [(key, entry)]
  | (other, present) :: rest =>
    if Text.precedes key other then (key, entry) :: (other, present) :: rest
    else if Text.precedes other key then (other, present) :: placePair key entry rest
    else (key, entry) :: rest

/-- Every key after placing a pair is the new one or was there before. -/
theorem mem_placePair {key : String} {entry : Entry} {pairs : List (String × Entry)}
    {pair : String × Entry} (member : pair ∈ placePair key entry pairs) :
    pair = (key, entry) ∨ pair ∈ pairs := by
  induction pairs with
  | nil => simpa [placePair] using member
  | cons head rest inductionHypothesis =>
    obtain ⟨other, present⟩ := head
    simp only [placePair] at member
    split at member
    · simpa using member
    · split at member
      · rcases List.mem_cons.mp member with equal | inside
        · exact .inr (equal ▸ List.mem_cons_self)
        · rcases inductionHypothesis inside with equal | inside
          · exact .inl equal
          · exact .inr (List.mem_cons_of_mem _ inside)
      · rcases List.mem_cons.mp member with equal | inside
        · exact .inl equal
        · exact .inr (List.mem_cons_of_mem _ inside)

/-- Placing a pair keeps the keys ascending. -/
theorem placePair_ascending (key : String) (entry : Entry) {pairs : List (String × Entry)}
    (ascending : pairs.Pairwise fun earlier later => Text.precedes earlier.1 later.1 = true) :
    (placePair key entry pairs).Pairwise
      fun earlier later => Text.precedes earlier.1 later.1 = true := by
  induction pairs with
  | nil => exact List.pairwise_singleton ..
  | cons head rest inductionHypothesis =>
    obtain ⟨other, present⟩ := head
    obtain ⟨above, ascendingRest⟩ := List.pairwise_cons.mp ascending
    simp only [placePair]
    split
    · rename_i before
      refine List.pairwise_cons.mpr ⟨fun pair member => ?_, ascending⟩
      rcases List.mem_cons.mp member with rfl | member
      · exact before
      · exact Text.precedes_trans before (above pair member)
    · rename_i notBefore
      split
      · rename_i after
        refine List.pairwise_cons.mpr ⟨fun pair member => ?_, inductionHypothesis ascendingRest⟩
        rcases mem_placePair member with rfl | member
        · exact after
        · exact above pair member
      · rename_i notAfter
        have same : key = other :=
          Text.eq_of_not_precedes (Bool.eq_false_iff.mpr notBefore)
            (Bool.eq_false_iff.mpr notAfter)
        exact List.pairwise_cons.mpr ⟨fun pair member => same ▸ above pair member, ascendingRest⟩

/-- The feed with an entry under a key, instead of the entry that was there. -/
def put (feed : Feed) (key : String) (entry : Entry) : Feed :=
  ⟨placePair key entry feed.pairs, placePair_ascending key entry feed.ascending⟩

/-- The entry under a key. -/
def get? (feed : Feed) (key : String) : Option Entry :=
  feed.pairs.lookup key

/-- The feed with an entry under its own uid, and the entry that it replaces. -/
def insert (feed : Feed) (entry : Entry) : Option Entry × Feed :=
  (feed.get? entry.uid, feed.put entry.uid entry)

/-- The entries in ascending order of their keys. -/
def toList (feed : Feed) : List Entry :=
  feed.pairs.map Prod.snd

/-- The number of keys. -/
def size (feed : Feed) : Nat :=
  feed.pairs.length

/-- Whether a feed has no entry. -/
def isEmpty (feed : Feed) : Bool :=
  feed.pairs.isEmpty

/-- The feed after inserting some entries in order. -/
def ofEntries (entries : List Entry) : Feed :=
  entries.foldl (fun feed entry => (feed.insert entry).2) empty

end Feed
end QuizFeed
