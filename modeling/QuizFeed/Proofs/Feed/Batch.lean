import QuizFeed.Feed.Projection
import QuizFeed.Proofs.Feed.Lookup

/-!
# What a list of items projects to

The projection of any list of items is described through the identifiers of its valid items. The
items with one identifier are its claimants, and the last claimant gives the entry. So the feed
depends on the order of claimants for the same identifier only.
-/

namespace QuizFeed.Projection

open QuizFeed.Json

variable {titleStart key : String} {item : Value} {items : List Value}

/-- Whether an item projects to an entry. -/
def isValid (titleStart : String) (item : Value) : Bool :=
  Option.isSome <| entry? titleStart item

/-- The identifier of a valid item, numbers as text. -/
def identifier? (titleStart : String) (item : Value) : Option String :=
  if isValid titleStart item then (item.member? "uid").bind uid? else none

/-- The valid items that have the same identifier, in the order of the list. -/
def claimants (titleStart key : String) (items : List Value) : List Value :=
  items.filter fun item => identifier? titleStart item = some key

/-- An entry has the identifier of its item as uid. -/
theorem uid_of_projected {entry : Entry} (projected : entry? titleStart item = some entry) :
    (item.member? "uid").bind uid? = some entry.uid := by
  unfold entry? at projected
  simp only at projected
  split at projected
  · cases projected
  · obtain ⟨uid, found, made⟩ := Option.bind_eq_some_iff.mp projected
    cases made
    exact found

/-- An item that is projected has the uid of its entry as identifier. -/
theorem identifier?_of_projected {entry : Entry} (projected : entry? titleStart item = some entry) :
    identifier? titleStart item = some entry.uid := by
  simp [identifier?, isValid, projected, uid_of_projected projected]

/-- The identifier of an item is the uid of the entry that it is projected to. -/
theorem identifier?_eq_some_iff :
    identifier? titleStart item = some key ↔
      ∃ entry, entry? titleStart item = some entry ∧ entry.uid = key := by
  constructor
  · intro identified
    cases projected : entry? titleStart item with
    | none => simp [identifier?, isValid, projected] at identified
    | some entry =>
      rw [identifier?_of_projected projected] at identified
      exact ⟨entry, rfl, Option.some.inj identified⟩
  · rintro ⟨entry, projected, rfl⟩
    exact identifier?_of_projected projected

/-- One more item answers for its identifier, if it projects to an entry. -/
theorem get?_add (projection : Projection) (item : Value) (key : String) :
    (projection.add titleStart item).feed.get? key =
      if identifier? titleStart item = some key then entry? titleStart item
      else projection.feed.get? key := by
  unfold add
  cases projected : entry? titleStart item with
  | none => simp [identifier?, isValid, projected]
  | some entry =>
    rw [identifier?_of_projected projected]
    simp only [Feed.insert, Feed.get?_put, Option.some.injEq, eq_comm]

/-- After a list of items the last claimant answers, or whatever answered before. -/
theorem get?_foldl_add (projection : Projection) (items : List Value) (key : String) :
    (items.foldl (add titleStart) projection).feed.get? key =
      match (claimants titleStart key items).getLast? with
      | some last => entry? titleStart last
      | none => projection.feed.get? key := by
  induction items generalizing projection with
  | nil => rfl
  | cons item rest inductionHypothesis =>
    rw [List.foldl_cons, inductionHypothesis, get?_add]
    by_cases identified : identifier? titleStart item = some key
    · have first : claimants titleStart key (item :: rest) =
          item :: claimants titleStart key rest := by
        simp [claimants, identified]
      rw [first, List.getLast?_cons, if_pos identified]
      cases (claimants titleStart key rest).getLast? <;> rfl
    · have skipped : claimants titleStart key (item :: rest) =
          claimants titleStart key rest := by
        simp [claimants, identified]
      rw [skipped, if_neg identified]

/-- Every item that is not valid counts as skipped. -/
theorem skipped_foldl_add (projection : Projection) (items : List Value) :
    (items.foldl (add titleStart) projection).skipped =
      projection.skipped + items.countP fun item => !isValid titleStart item := by
  induction items generalizing projection with
  | nil => rfl
  | cons item rest inductionHypothesis =>
    rw [List.foldl_cons, inductionHypothesis, List.countP_cons]
    unfold add isValid
    cases entry? titleStart item with
    | none =>
      simp only [Option.isSome_none, Bool.not_false, if_true]
      omega
    | some entry => simp

/-- The last claimant of an identifier gives the entry of a list. -/
theorem get?_ofValue (titleStart : String) (items : List Value) (key : String) :
    (ofValue titleStart (.list items)).feed.get? key =
      (claimants titleStart key items).getLast?.bind fun item => entry? titleStart item := by
  change (items.foldl (add titleStart) empty).feed.get? key = _
  rw [get?_foldl_add]
  cases (claimants titleStart key items).getLast? <;> rfl

/-- The items that are skipped are those that are not valid. -/
theorem skipped_ofValue (titleStart : String) (items : List Value) :
    (ofValue titleStart (.list items)).skipped =
      items.countP fun item => !isValid titleStart item := by
  change (items.foldl (add titleStart) empty).skipped = _
  rw [skipped_foldl_add]
  exact Nat.zero_add _

/-- The keys are the identifiers of the valid items. -/
theorem mem_keys_ofValue :
    key ∈ (ofValue titleStart (.list items)).feed.keys ↔
      ∃ item ∈ items, identifier? titleStart item = some key := by
  rw [Feed.mem_keys_iff, get?_ofValue]
  constructor
  · rintro ⟨entry, found⟩
    obtain ⟨last, atEnd, -⟩ := Option.bind_eq_some_iff.mp found
    have member := List.mem_filter.mp (List.mem_of_getLast? atEnd)
    exact ⟨last, member.1, of_decide_eq_true member.2⟩
  · rintro ⟨item, member, identified⟩
    have inside : item ∈ claimants titleStart key items :=
      List.mem_filter.mpr ⟨member, decide_eq_true identified⟩
    obtain ⟨last, atEnd⟩ := Option.isSome_iff_exists.mp
      (List.getLast?_isSome.mpr (List.ne_nil_of_mem inside))
    have claims := (List.mem_filter.mp (List.mem_of_getLast? atEnd)).2
    obtain ⟨entry, projected, -⟩ := identifier?_eq_some_iff.mp (of_decide_eq_true claims)
    exact ⟨entry, by rw [atEnd, Option.bind_some, projected]⟩

/-- A permutation that keeps every identifier's claimants in order projects to the same feed and
count. -/
theorem ofValue_reordered {reordered : List Value} (permuted : reordered.Perm items)
    (kept : ∀ key, claimants titleStart key reordered = claimants titleStart key items) :
    ofValue titleStart (.list reordered) = ofValue titleStart (.list items) := by
  have feeds : (ofValue titleStart (.list reordered)).feed =
      (ofValue titleStart (.list items)).feed := by
    apply Feed.ext_get?
    intro key
    rw [get?_ofValue, get?_ofValue, kept key]
  have counts : (ofValue titleStart (.list reordered)).skipped =
      (ofValue titleStart (.list items)).skipped := by
    rw [skipped_ofValue, skipped_ofValue, permuted.countP_eq]
  generalize ofValue titleStart (.list reordered) = left at *
  generalize ofValue titleStart (.list items) = right at *
  cases left
  cases right
  cases feeds
  cases counts
  rfl

/-- A list projects to the entries of last claimants and the number of items that are not valid,
whatever the order of items with different identifiers; any other value projects to nothing. -/
theorem ofValue_batch (titleStart : String) :
    (∀ items : List Value,
      (∀ key, key ∈ (ofValue titleStart (.list items)).feed.keys ↔
        ∃ item ∈ items, identifier? titleStart item = some key) ∧
      (∀ key, (ofValue titleStart (.list items)).feed.get? key =
        (claimants titleStart key items).getLast?.bind fun item => entry? titleStart item) ∧
      ((ofValue titleStart (.list items)).skipped =
        items.countP fun item => !isValid titleStart item) ∧
      ∀ reordered : List Value, reordered.Perm items →
        (∀ key, claimants titleStart key reordered = claimants titleStart key items) →
        ofValue titleStart (.list reordered) = ofValue titleStart (.list items)) ∧
    ∀ response : Value, response.items? = none → ofValue titleStart response = empty := by
  refine ⟨fun items => ⟨fun key => mem_keys_ofValue, get?_ofValue titleStart items,
    skipped_ofValue titleStart items, fun reordered => ofValue_reordered⟩, ?_⟩
  intro response notList
  rw [ofValue, notList]
  rfl

/-- An item with some data. -/
def titledItem (uid : Value) (title : String) : Value :=
  .object [("uid", uid), ("data", .object [("title", .text title)])]

/-- A text and a number that look alike are claimants for one key, and an item that is not valid
may stand anywhere. -/
theorem ofValue_batch_alike :
    let first := titledItem (.text "7") "old"
    let last := titledItem (.number (.integer 7)) "new"
    ofValue "" (.list [.null, first, last]) = ofValue "" (.list [first, .null, last]) ∧
      (ofValue "" (.list [first, .null, last])).feed.get? "7" =
        some ⟨"7", "new", .unpublished, none⟩ ∧
      ofValue "" .null = empty := by
  intro first last
  have batch := (ofValue_batch "").1 [first, .null, last]
  refine ⟨batch.2.2.2 [.null, first, last] (List.Perm.swap _ _ _) fun key => rfl, ?_,
    (ofValue_batch "").2 .null rfl⟩
  rw [batch.2.1 "7"]
  decide

end QuizFeed.Projection
