import QuizFeed.Proofs.Command.Listing
import QuizFeed.Proofs.Feed.History
import QuizFeed.Proofs.Text.Splitting

/-!
# Reading a listing back

The list of all entries has a line for each entry, and tabs between what is shown of it. Nothing is
quoted, so the lines and the fields can be told apart exactly if the texts of the entries have no
newline (`lines?_listing_iff`) and no tab (`cells_entryText_iff`). A listing of such entries is read
back as it was (`readBack?_listing`), and so shows which feed it is of (`listing_read_back`).
-/

namespace QuizFeed

/-- What was written one by one is read one by one. -/
theorem mapM_map_eq_some {α β : Type} {write : α → β} {read : β → Option α} {list : List α}
    (reads : ∀ item ∈ list, read (write item) = some item) :
    (list.map write).mapM read = some list := by
  induction list with
  | nil => rfl
  | cons item rest inductionHypothesis =>
    obtain ⟨head, tail⟩ := List.forall_mem_cons.mp reads
    rw [List.map_cons, List.mapM_cons, head, inductionHypothesis tail]
    rfl

/-- Whether no text of an entry has a character in it. -/
def Entry.Lacks (character : Char) (entry : Entry) : Prop :=
  character ∉ entry.uid.toList ∧ character ∉ entry.title.toList ∧
    ∀ image ∈ entry.image, character ∉ image.toList

instance (character : Char) (entry : Entry) : Decidable (entry.Lacks character) :=
  inferInstanceAs (Decidable (_ ∧ _ ∧ _))

/-- Whether the entries of a feed have neither tabs nor newlines. -/
def Feed.IsPlain (feed : Feed) : Prop :=
  ∀ entry ∈ feed.toList, entry.Lacks '\t' ∧ entry.Lacks '\n'

instance (feed : Feed) : Decidable feed.IsPlain :=
  inferInstanceAs (Decidable (∀ entry ∈ feed.toList, _))

namespace Command

/-- What is shown of an entry, between the tabs. -/
def fields (entry : Entry) : List String :=
  [entry.uid, toString entry.status.flag, entry.title, entry.image.getD "-"]

/-- What is shown of an entry, without the newline at the end. -/
def entryText (entry : Entry) : String :=
  entry.uid ++ "\t" ++ toString entry.status.flag ++ "\t" ++ entry.title ++ "\t" ++
    entry.image.getD "-"

/-- The lines of a text, if there is a newline behind each of them. -/
def lines? (text : String) : Option (List String) :=
  let pieces := text.toList.splitOn '\n'
  if pieces.getLast? = some [] then some (pieces.dropLast.map String.ofList) else none

/-- The parts of a line between its tabs. -/
def cells (line : String) : List String :=
  (line.toList.splitOn '\t').map String.ofList

/-- The entry of which some fields are shown. -/
def entryOf? : List String → Option Entry
  | [uid, flag, title, image] =>
    some ⟨uid, title, if flag = "1" then .published else .unpublished,
      if image = "-" then none else some image⟩
  | _ => none

/-- The entries of a listing. -/
def readBack? (text : String) : Option (List Entry) :=
  (lines? text).bind fun lines => lines.mapM fun line => entryOf? (cells line)

/-- Pieces are some texts as they are the characters of these. -/
theorem map_ofList_eq_iff {pieces : List (List Char)} {texts : List String} :
    pieces.map String.ofList = texts ↔ pieces = texts.map String.toList := by
  constructor
  · rintro rfl
    simp
  · rintro rfl
    simp

/-- The lines of a text are what it is split into at newlines, but for an empty end. -/
theorem lines?_eq_some_iff {text : String} {lines : List String} :
    lines? text = some lines ↔
      text.toList.splitOn '\n' = lines.map String.toList ++ [[]] := by
  unfold lines?
  dsimp only
  constructor
  · intro found
    split at found
    case isTrue ends =>
      obtain ⟨front, split⟩ := List.getLast?_eq_some_iff.mp ends
      rw [split, List.dropLast_concat, Option.some_inj, map_ofList_eq_iff] at found
      rw [split, found]
    case isFalse => cases found
  · intro split
    rw [split, if_pos List.getLast?_concat, List.dropLast_concat, Option.some_inj,
      map_ofList_eq_iff]

variable {entry : Entry} {feed : Feed}

/-- The line of an entry has its fields with tabs between them. -/
theorem toList_entryText (entry : Entry) :
    (entryText entry).toList = ['\t'].intercalate ((fields entry).map String.toList) := by
  simp [entryText, fields, List.intercalate]

/-- A listing has the lines of its entries, each with a newline behind it. -/
theorem toList_listing (feed : Feed) :
    (listing feed).toList =
      ['\n'].intercalate ((feed.toList.map entryText).map String.toList ++ [[]]) := by
  rw [intercalate_concat_nil, List.flatMap_map, List.flatMap_map]
  unfold listing
  rw [String.toList_join, List.flatMap_map]
  exact List.flatMap_congr fun entry _ => String.toList_append

/-- A character that is not shown for a status or a missing image is in the fields of an entry if it
is in its texts. -/
theorem lacks_iff {character : Char} (apart : character ∉ ['0', '1', '-']) :
    entry.Lacks character ↔ ∀ field ∈ fields entry, character ∉ field.toList := by
  have flags : (toString entry.status.flag).toList ⊆ ['0', '1', '-'] := by
    cases entry.status <;> decide
  have noFlag : character ∉ (toString entry.status.flag).toList :=
    fun member => apart (flags member)
  have noDash : character ≠ '-' := by
    rintro rfl
    exact apart (by decide)
  unfold Entry.Lacks fields
  generalize toString entry.status.flag = flag at noFlag ⊢
  cases entry.image with
  | none => simp [noFlag, noDash]
  | some image => simp [noFlag]

/-- The line of an entry is split into its fields exactly if they have no tab. -/
theorem cells_entryText_iff : cells (entryText entry) = fields entry ↔ entry.Lacks '\t' := by
  unfold cells
  rw [map_ofList_eq_iff, toList_entryText, splitOn_intercalate_iff (by simp [fields]),
    List.forall_mem_map, lacks_iff (by decide)]

/-- An entry has no newline exactly if its line has none. -/
theorem lacks_newline_iff : entry.Lacks '\n' ↔ '\n' ∉ (entryText entry).toList := by
  rw [lacks_iff (by decide)]
  unfold entryText fields
  generalize toString entry.status.flag = flag
  simp

/-- A listing has one line for each entry exactly if the entries have no newline. -/
theorem lines?_listing_iff : lines? (listing feed) = some (feed.toList.map entryText) ↔
    ∀ entry ∈ feed.toList, entry.Lacks '\n' := by
  rw [lines?_eq_some_iff, toList_listing, splitOn_intercalate_iff (by simp),
    List.forall_mem_append, List.forall_mem_map, List.forall_mem_map]
  simp [lacks_newline_iff]

/-- An entry can be told from its fields. -/
theorem entryOf?_fields (shown : entry.image ≠ some "-") :
    entryOf? (fields entry) = some entry := by
  obtain ⟨uid, title, status, image⟩ := entry
  unfold fields entryOf?
  dsimp only
  congr 2
  · cases status <;> decide
  · cases image with
    | none => rfl
    | some image => exact if_neg fun dash => shown (congrArg some dash)

/-- The listing of plain entries is read back. -/
theorem readBack?_listing (sound : feed.IsSound) (plain : feed.IsPlain) :
    readBack? (listing feed) = some feed.toList := by
  have lines := lines?_listing_iff.mpr fun entry member => (plain entry member).2
  have read : ∀ entry ∈ feed.toList, entryOf? (cells (entryText entry)) = some entry := by
    intro entry member
    have isSound := (sound _ _ (sound.get?_of_mem member)).2
    rw [cells_entryText_iff.mpr (plain entry member).1, entryOf?_fields isSound.image]
  unfold readBack?
  rw [lines]
  exact mapM_map_eq_some read

/-- The listing of a feed that a response projects to is in ascending order, and shows a dash for
those entries that have no image. It has a line for each entry exactly if there is no newline in
their texts, and a line has the four fields of its entry exactly if there is no tab in its texts.
Such a listing is read back, so different feeds are listed differently. -/
theorem listing_read_back (titleStart : String) (response : Json.Value) :
    let feed := (Projection.ofValue titleStart response).feed
    (feed.toList.Pairwise fun earlier later =>
      Text.bytes earlier.uid < Text.bytes later.uid) ∧
    (∀ entry ∈ feed.toList, entry.image.getD "-" = "-" ↔ entry.image = none) ∧
    (lines? (listing feed) = some (feed.toList.map entryText) ↔
      ∀ entry ∈ feed.toList, entry.Lacks '\n') ∧
    (∀ entry, cells (entryText entry) = fields entry ↔ entry.Lacks '\t') ∧
    (feed.IsPlain → readBack? (listing feed) = some feed.toList ∧
      ∀ otherStart otherResponse,
        let other := (Projection.ofValue otherStart otherResponse).feed
        other.IsPlain → (listing feed = listing other ↔ feed = other)) ∧
    ∀ {ε : Type} (outside : Outside ε) (attempt : Attempt ε) (asked : Consultation ε),
      attempt.consultation? outside = some asked → asked.call.result = .ok feed →
      attempt.invocation.task = .feed →
      ((run attempt.invocation).run outside attempt.world).1 = .ok ⟨.success, listing feed⟩ := by
  intro feed
  have sound : feed.IsSound := Projection.sound_ofValue titleStart response
  refine ⟨sound.ascending_toList.imp Text.precedes_iff_lt.mp, ?_, lines?_listing_iff,
    fun _ => cells_entryText_iff, fun plain => ⟨readBack?_listing sound plain, ?_⟩, ?_⟩
  · intro entry member
    have shown := (sound _ _ (sound.get?_of_mem member)).2.image
    cases image : entry.image with
    | none => simp
    | some address =>
      rw [image] at shown
      simpa using shown
  · intro otherStart otherResponse other otherPlain
    have otherSound : other.IsSound := Projection.sound_ofValue otherStart otherResponse
    constructor
    · intro same
      have entries : feed.toList = other.toList := by
        rw [← Option.some_inj, ← readBack?_listing sound plain, same,
          readBack?_listing otherSound otherPlain]
      exact sound.isKeyed.ext_toList otherSound.isKeyed entries
    · rintro same
      rw [same]
  · intro ε outside attempt asked consulted answered task
    obtain ⟨settings, _, prints⟩ := Attempt.print_of_consultation? consulted
    rw [task] at prints
    rw [Attempt.run_of_answered consulted answered, ← Option.some.inj prints]
    rfl

/-- An item of a response with a uid and a title. -/
def itemOf (uid title : String) : Json.Value :=
  .object [("uid", .text uid), ("data", .object [("title", .text title)])]

/-- The one item of a response is listed and read back, and not listed like two others. -/
theorem listing_read_back_item :
    let feed := (Projection.ofValue "" (.list [itemOf "u" "T"])).feed
    let other := (Projection.ofValue "" (.list [itemOf "ü" "\"T ", itemOf "u" "T"])).feed
    let attempt : Attempt Time.Instant :=
      ⟨{ settings := ⟨"s.ron"⟩, token := some "t", task := .feed }, Feed.worldAt .epoch⟩
    readBack? (listing feed) = some [⟨"u", "T", .unpublished, none⟩] ∧
      listing feed ≠ listing other ∧
      ((run attempt.invocation).run itemNetwork attempt.world).1 =
        .ok ⟨.success, listing feed⟩ := by
  intro feed other attempt
  obtain ⟨-, -, -, -, plainly, prints⟩ := listing_read_back "" (.list [itemOf "u" "T"])
  obtain ⟨readBack, apart⟩ := plainly (by decide)
  have entries : feed.toList = [⟨"u", "T", .unpublished, none⟩] := by decide
  have different : feed ≠ other := by decide
  have answered : (attempt.consultation? itemNetwork).map (·.call.result.toOption) =
      some (some feed) := by decide +kernel
  obtain ⟨asked, consulted, result⟩ := Option.map_eq_some_iff.mp answered
  refine ⟨readBack.trans (congrArg some entries), ?_,
    prints itemNetwork attempt asked consulted (eq_ok_of_toOption result) rfl⟩
  exact fun same => different ((apart _ _ (by decide)).mp same)

/-- An item whose title has a tab and a newline is listed like two items. -/
theorem listing_feigned :
    let feed := (Projection.ofValue "" (.list [itemOf "a" "T\t-\nb\t0\tU"])).feed
    let other := (Projection.ofValue "" (.list [itemOf "a" "T", itemOf "b" "U"])).feed
    feed.toList.length = 1 ∧ feed.toList.map (List.length ∘ cells ∘ entryText) = [7] ∧
      feed ≠ other ∧ listing feed = "a\t0\tT\t-\nb\t0\tU\t-\n" ∧ listing other = listing feed ∧
      lines? (listing feed) = some ["a\t0\tT\t-", "b\t0\tU\t-"] := by
  decide

end Command

end QuizFeed
