import QuizFeed.Feed.Basic

/-!
# Looking up entries in feeds

A feed is observed through `Feed.get?`. `get?_put` says what filing an entry does to the answers,
and `ext_get?` that the answers determine the feed, so two ways of building a feed are compared key
by key. `foldl_put_pairs` rebuilds a feed from its own pairs.
-/

namespace QuizFeed.Feed

variable {key other : String} {entry : Entry} {pairs : List (String × Entry)}

/-- The first of some pairs is found under its key and hides nothing else. -/
theorem lookup_pair (key other : String) (entry : Entry) (rest : List (String × Entry)) :
    ((key, entry) :: rest).lookup other =
      if other = key then some entry else rest.lookup other := by
  rw [List.lookup_cons]
  by_cases same : other = key
  · simp [same]
  · simp [same, beq_eq_false_iff_ne.mpr same]

/-- Placing a pair changes the answer for its key only. -/
theorem lookup_placePair (key other : String) (entry : Entry) (pairs : List (String × Entry)) :
    (placePair key entry pairs).lookup other =
      if other = key then some entry else pairs.lookup other := by
  induction pairs with
  | nil => simp [placePair, lookup_pair]
  | cons head rest inductionHypothesis =>
    obtain ⟨present, content⟩ := head
    simp only [placePair]
    split
    · rw [lookup_pair]
    · rename_i notBefore
      split
      · rename_i after
        have different : present ≠ key := by
          rintro rfl
          simp [Text.precedes_irrefl] at after
        simp only [lookup_pair, inductionHypothesis]
        by_cases same : other = present
        · subst same
          simp [different]
        · simp [same]
      · rename_i notAfter
        have same : key = present :=
          Text.eq_of_not_precedes (Bool.eq_false_iff.mpr notBefore)
            (Bool.eq_false_iff.mpr notAfter)
        subst same
        simp only [lookup_pair]
        split <;> rfl

/-- Filing an entry changes the answer for its key only. -/
theorem get?_put (feed : Feed) (key other : String) (entry : Entry) :
    (feed.put key entry).get? other = if other = key then some entry else feed.get? other :=
  lookup_placePair key other entry feed.pairs

/-- The answer for a key is the entry of a pair with that key. -/
theorem mem_of_lookup (found : pairs.lookup key = some entry) : (key, entry) ∈ pairs := by
  induction pairs with
  | nil => simp at found
  | cons head rest inductionHypothesis =>
    obtain ⟨present, content⟩ := head
    rw [lookup_pair] at found
    split at found
    · rename_i same
      cases found
      exact same ▸ List.mem_cons_self
    · exact List.mem_cons_of_mem _ (inductionHypothesis found)

/-- Ascending keys are distinct, so every pair answers for its key. -/
theorem lookup_of_mem
    (ascending : pairs.Pairwise fun earlier later => Text.precedes earlier.1 later.1 = true)
    (member : (key, entry) ∈ pairs) : pairs.lookup key = some entry := by
  induction pairs with
  | nil => simp at member
  | cons head rest inductionHypothesis =>
    obtain ⟨present, content⟩ := head
    obtain ⟨above, ascendingRest⟩ := List.pairwise_cons.mp ascending
    rw [lookup_pair]
    rcases List.mem_cons.mp member with equal | inside
    · cases equal
      rw [if_pos rfl]
    · have before := above (key, entry) inside
      have different : key ≠ present := by
        rintro rfl
        simp [Text.precedes_irrefl] at before
      rw [if_neg different]
      exact inductionHypothesis ascendingRest inside

/-- A feed answers with exactly the entries of its pairs. -/
theorem mem_pairs_iff (feed : Feed) : (key, entry) ∈ feed.pairs ↔ feed.get? key = some entry :=
  ⟨lookup_of_mem feed.ascending, mem_of_lookup⟩

/-- The keys of a feed. -/
def keys (feed : Feed) : List String :=
  feed.pairs.map Prod.fst

/-- The keys of a feed are those that it has an answer for. -/
theorem mem_keys_iff (feed : Feed) : key ∈ feed.keys ↔ ∃ entry, feed.get? key = some entry := by
  constructor
  · intro member
    obtain ⟨⟨present, entry⟩, inside, rfl⟩ := List.mem_map.mp member
    exact ⟨entry, feed.mem_pairs_iff.mp inside⟩
  · rintro ⟨entry, found⟩
    exact List.mem_map_of_mem (feed.mem_pairs_iff.mpr found)

/-- No key comes before itself, so two texts do not come before each other. -/
theorem not_precedes_both (before : Text.precedes key other = true) :
    ¬ Text.precedes other key = true := by
  intro reverse
  have around := Text.precedes_trans before reverse
  simp [Text.precedes_irrefl] at around

/-- No key occurs twice in a feed. -/
theorem nodup_keys (feed : Feed) : feed.keys.Nodup := by
  refine List.pairwise_map.mpr (feed.ascending.imp fun before => ?_)
  intro same
  rw [same] at before
  exact not_precedes_both before before

/-- No pair occurs twice in a feed. -/
theorem nodup_pairs (feed : Feed) : feed.pairs.Nodup :=
  List.Pairwise.of_map Prod.fst (fun _ _ different same => different (congrArg Prod.fst same))
    feed.nodup_keys

/-- Two feeds with the same answers are equal. -/
theorem ext_get? {left right : Feed} (same : ∀ key, left.get? key = right.get? key) :
    left = right := by
  have permuted : left.pairs.Perm right.pairs := by
    refine (List.perm_ext_iff_of_nodup left.nodup_pairs right.nodup_pairs).mpr ?_
    rintro ⟨key, entry⟩
    rw [mem_pairs_iff, mem_pairs_iff, same key]
  refine Feed.ext (permuted.eq_of_pairwise ?_ left.ascending right.ascending)
  intro first second _ _ before after
  exact absurd after (not_precedes_both before)

/-- A feed whose keys are the uids of the entries under them. -/
def IsKeyed (feed : Feed) : Prop :=
  ∀ key entry, feed.get? key = some entry → key = entry.uid

/-- The entries of a feed with uids for keys are in strictly ascending order of their uids. -/
theorem IsKeyed.ascending_toList {feed : Feed} (keyed : feed.IsKeyed) :
    feed.toList.Pairwise fun earlier later => Text.precedes earlier.uid later.uid = true := by
  unfold toList
  rw [List.pairwise_map]
  refine feed.ascending.imp_of_mem ?_
  intro earlier later memberEarlier memberLater before
  have underEarlier := keyed _ _ ((mem_pairs_iff feed).mp memberEarlier)
  have underLater := keyed _ _ ((mem_pairs_iff feed).mp memberLater)
  rwa [← underEarlier, ← underLater]

/-- The entries of a feed with uids for keys are those that are found by their uids. -/
theorem IsKeyed.mem_toList_iff {feed : Feed} (keyed : feed.IsKeyed) :
    entry ∈ feed.toList ↔ feed.get? entry.uid = some entry := by
  constructor
  · intro member
    obtain ⟨⟨key, present⟩, inside, rfl⟩ := List.mem_map.mp member
    have found := (mem_pairs_iff feed).mp inside
    rwa [← keyed _ _ found]
  · intro found
    exact List.mem_map.mpr ⟨_, (mem_pairs_iff feed).mpr found, rfl⟩

/-- Two feeds with uids for keys are equal if they have the same entries. -/
theorem IsKeyed.ext_toList {left right : Feed} (keyedLeft : left.IsKeyed)
    (keyedRight : right.IsKeyed) (same : left.toList = right.toList) : left = right := by
  refine ext_get? fun key => Option.ext fun entry => ?_
  constructor
  · intro found
    obtain rfl := keyedLeft key entry found
    exact keyedRight.mem_toList_iff.mp (same ▸ keyedLeft.mem_toList_iff.mpr found)
  · intro found
    obtain rfl := keyedRight key entry found
    exact keyedLeft.mem_toList_iff.mp (same ▸ keyedRight.mem_toList_iff.mpr found)

/-- A pair whose key comes after all others goes to the end. -/
theorem placePair_last
    (after : ∀ pair ∈ pairs, Text.precedes pair.1 key = true) :
    placePair key entry pairs = pairs ++ [(key, entry)] := by
  induction pairs with
  | nil => rfl
  | cons head rest inductionHypothesis =>
    obtain ⟨present, content⟩ := head
    have before : Text.precedes present key = true := after _ List.mem_cons_self
    rw [placePair, if_neg (not_precedes_both before), if_pos before,
      inductionHypothesis fun pair member => after pair (List.mem_cons_of_mem _ member)]
    rfl

/-- Filing pairs whose keys ascend behind those of a feed adds them at its end. -/
theorem pairs_foldl_put (feed : Feed) (pairs : List (String × Entry))
    (ascending : (feed.pairs ++ pairs).Pairwise
      fun earlier later => Text.precedes earlier.1 later.1 = true) :
    (pairs.foldl (fun feed pair => feed.put pair.1 pair.2) feed).pairs = feed.pairs ++ pairs := by
  induction pairs generalizing feed with
  | nil => simp
  | cons pair rest inductionHypothesis =>
    obtain ⟨-, -, across⟩ := List.pairwise_append.mp ascending
    have placed : (feed.put pair.1 pair.2).pairs = feed.pairs ++ [pair] :=
      placePair_last fun present member => across present member pair List.mem_cons_self
    rw [List.foldl_cons, inductionHypothesis]
    · simp [placed]
    · simpa [placed] using ascending

/-- Filing the pairs of a feed one after the other gives the feed. -/
theorem foldl_put_pairs (feed : Feed) :
    feed.pairs.foldl (fun state pair => state.put pair.1 pair.2) empty = feed := by
  apply Feed.ext
  rw [pairs_foldl_put empty feed.pairs (by simpa [empty] using feed.ascending)]
  rfl

end QuizFeed.Feed
