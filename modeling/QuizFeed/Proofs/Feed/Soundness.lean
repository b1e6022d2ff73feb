import QuizFeed.Proofs.Feed.Batch

/-!
# Feeds made of responses

A feed that is read back from storage may hold an entry under any key and with any texts. A feed
that a response projects to has every entry under its own uid, and the texts of an entry are never
empty (`sound_ofValue`), whatever the response is: `sound_of_projected` is the fact about one item,
and the rest is an induction over the items.
-/

namespace QuizFeed

namespace Decimal

/-- A number in scientific form is written with some characters. -/
theorem Scientific.render_ne_nil (number : Scientific) : number.render ≠ [] := by
  unfold Scientific.render
  dsimp only
  split
  · split
    · simp
    · split <;> simp
  · simp

/-- A number with a fraction is written with some characters. -/
theorem Binary64.render_ne_empty (double : Binary64) : double.render ≠ "" := by
  intro empty
  have characters := congrArg String.toList empty
  unfold Binary64.render at characters
  rw [String.toList_ofList] at characters
  obtain ⟨_, magnitude⟩ := List.append_eq_nil_iff.mp characters
  split at magnitude
  · cases magnitude
  · exact Scientific.render_ne_nil _ magnitude

end Decimal

open Json

/-- A number is written with some characters. -/
theorem Json.Number.render_ne_empty (number : Number) : number.render ≠ "" := by
  cases number with
  | integer value =>
    cases value with
    | ofNat size => exact Nat.repr_ne_empty
    | negSucc size =>
      intro empty
      have characters := congrArg String.toList empty
      change ("-" ++ toString (size + 1)).toList = _ at characters
      simp at characters
  | real value => exact value.render_ne_empty

/-- The address of an image has more than one character. -/
theorem Image.address_ne_dash {reference address : String} {hint : Option String}
    (found : Image.address reference hint = some address) : address ≠ "-" := by
  obtain ⟨url, _, rfl⟩ := Option.map_eq_some_iff.mp found
  intro dash
  have lengths := congrArg String.length dash
  rw [String.length_append] at lengths
  unfold Image.locate at lengths
  have site : Image.site.length = 22 := by decide
  have separator : "://".length = 3 := by decide
  have single : "-".length = 1 := by decide
  split at lengths
  · simp only [String.length_append, separator, single] at lengths
    omega
  · split at lengths <;>
    · simp only [String.length_append, site, single] at lengths
      omega

/-- An entry whose uid and title are not empty, and whose image can be told from none. -/
structure Entry.IsSound (entry : Entry) : Prop where
  uid : entry.uid ≠ ""
  title : entry.title ≠ ""
  image : entry.image ≠ some "-"

/-- A feed of sound entries, each under its own uid. -/
def Feed.IsSound (feed : Feed) : Prop :=
  ∀ key entry, feed.get? key = some entry → key = entry.uid ∧ entry.IsSound

namespace Projection

variable {titleStart : String} {item : Value} {entry : Entry}

/-- A text that counts is not empty. -/
theorem filledText?_ne_empty {value : Value} {text : String}
    (found : filledText? value = some text) : text ≠ "" :=
  bne_iff_ne.mp (Option.filter_eq_some_iff.mp found).2

/-- The identifier that a value denotes is not empty. -/
theorem uid?_ne_empty {value : Value} {uid : String} (found : uid? value = some uid) :
    uid ≠ "" := by
  unfold uid? at found
  split at found
  · split at found
    · cases found
    · cases found
      assumption
  · cases found
    exact Number.render_ne_empty _
  · cases found

/-- A title that is found is not empty. -/
theorem title?_ne_empty {data : Value} {title : String} (found : title? data = some title) :
    title ≠ "" := by
  obtain ⟨value, _, isText⟩ := Option.bind_eq_some_iff.mp found
  exact filledText?_ne_empty isText

/-- An item projects to a sound entry. -/
theorem sound_of_projected (projected : entry? titleStart item = some entry) :
    entry.IsSound := by
  unfold entry? at projected
  dsimp only at projected
  split at projected
  · cases projected
  · obtain ⟨uid, found, made⟩ := Option.bind_eq_some_iff.mp projected
    cases made
    obtain ⟨value, _, isUid⟩ := Option.bind_eq_some_iff.mp found
    have named := uid?_ne_empty isUid
    constructor
    · exact named
    · dsimp only
      cases titled : [filledObject? "data" item, filledObject? "draftData" item].filterMap id
        |>.findSome? title? with
      | none =>
        intro empty
        have lengths := congrArg String.length empty
        simp only [Option.getD_none, String.length_append, String.length_empty] at lengths
        have short : uid.length = 0 := by omega
        exact named (String.length_eq_zero_iff.mp short)
      | some title =>
        obtain ⟨data, _, isTitle⟩ := List.exists_of_findSome?_eq_some titled
        exact title?_ne_empty isTitle
    · dsimp only
      intro dash
      obtain ⟨data, _, isImage⟩ := Option.bind_eq_some_iff.mp dash
      obtain ⟨reference, _, located⟩ := Option.bind_eq_some_iff.mp isImage
      exact Image.address_ne_dash located rfl

/-- One more item leaves a feed sound. -/
theorem sound_add {projection : Projection} (sound : projection.feed.IsSound) (item : Value) :
    (projection.add titleStart item).feed.IsSound := by
  intro key entry found
  rw [get?_add] at found
  split at found
  · rename_i identified
    rw [identifier?_of_projected found] at identified
    exact ⟨(Option.some.inj identified).symm, sound_of_projected found⟩
  · exact sound key entry found

/-- Any response projects to a sound feed. -/
theorem sound_ofValue (titleStart : String) (response : Value) :
    (ofValue titleStart response).feed.IsSound := by
  have sound : ∀ (items : List Value) (projection : Projection), projection.feed.IsSound →
      (items.foldl (add titleStart) projection).feed.IsSound := by
    intro items
    induction items with
    | nil => exact fun projection sound => sound
    | cons item rest inductionHypothesis =>
      intro projection sound
      exact inductionHypothesis _ (sound_add sound item)
  apply sound
  intro key entry found
  cases found

end Projection

namespace Feed

variable {feed : Feed}

/-- A sound feed has its entries under their uids. -/
theorem IsSound.isKeyed (sound : feed.IsSound) : feed.IsKeyed :=
  fun key entry found => (sound key entry found).1

/-- The entries of a feed with uids for keys are in strictly ascending order of their uids. -/
theorem IsSound.ascending_toList (sound : feed.IsSound) :
    feed.toList.Pairwise fun earlier later => Text.precedes earlier.uid later.uid = true :=
  sound.isKeyed.ascending_toList

/-- An entry of a feed with uids for keys is found by its uid. -/
theorem IsSound.get?_of_mem (sound : feed.IsSound) {entry : Entry}
    (member : entry ∈ feed.toList) : feed.get? entry.uid = some entry :=
  sound.isKeyed.mem_toList_iff.mp member

end Feed
end QuizFeed
