import QuizFeed.Proofs.Feed.Lookup
import QuizFeed.Proofs.Ron.Fields
import QuizFeed.Proofs.Time.Text
import QuizFeed.Cache.Snapshot

/-!
# Reading written snapshots

The document of a snapshot is read as that snapshot, whatever the texts of its feed and its expiry
are, and also if entries stand under keys that are not their uids.
-/

namespace QuizFeed

open Ron Ron.Reader

namespace Status

/-- A status is read from its name. -/
theorem moves_reader (status : Status) (level : Nat) (rest : List Char) :
    Moves reader ((Value.word status.name).write level ++ ',' :: rest) status (',' :: rest) := by
  rw [Value.write_word]
  cases status
  · exact moves_choice_first (by decide) (by decide) rest
  · exact moves_choice_second (by decide) (by decide) (by decide) rest

/-- The name of a status starts with a letter. -/
theorem startsSolid (status : Status) (level : Nat) :
    StartsSolid ((Value.word status.name).write level) := by
  rw [Value.write_word]
  cases status
  · exact ⟨'P', "ublished".toList, by decide, by decide⟩
  · exact ⟨'U', "npublished".toList, by decide, by decide⟩

end Status

namespace Entry

/-- The uid of an entry is found by its name. -/
theorem find?_uid : fields.find? (fun field => field.name == "uid") =
    some (.of "uid" Partial.uid (fun state uid => { state with uid := some uid })
      Reader.string) := by
  simp [fields, RecordField.of]

/-- The title of an entry is found by its name. -/
theorem find?_title : fields.find? (fun field => field.name == "title") =
    some (.of "title" Partial.title (fun state title => { state with title := some title })
      Reader.string) := by
  simp [fields, RecordField.of]

/-- The status of an entry is found by its name. -/
theorem find?_status : fields.find? (fun field => field.name == "status") =
    some (.of "status" Partial.status (fun state status => { state with status := some status })
      Status.reader) := by
  simp [fields, RecordField.of]

/-- The image of an entry is found by its name. -/
theorem find?_image : fields.find? (fun field => field.name == "image") =
    some (.of "image" Partial.image (fun state image => { state with image := some image })
      (Reader.option Reader.string)) := by
  simp [fields, RecordField.of]

/-- An entry is read from its text. -/
theorem moves_reader (depth level : Nat) (entry : Entry) (rest : List Char) :
    Moves (reader depth) (entry.toValue.write level ++ rest) entry rest := by
  have reads : ReadsItems (field recordName depth fields) ')'
      ([("uid", .string entry.uid), ("title", .string entry.title),
        ("status", .word entry.status.name), ("image", .optionalText entry.image)].map
          (fieldText level))
      {} ⟨some entry.uid, some entry.title, some entry.status, some entry.image⟩ := by
    refine readsItems_field (by decide) find?_uid rfl (startsSolid_string _ _)
      (fun rest => moves_read_of (moves_writtenString _ _ _) _) ?_
    refine readsItems_field (by decide) find?_title rfl (startsSolid_string _ _)
      (fun rest => moves_read_of (moves_writtenString _ _ _) _) ?_
    refine readsItems_field (by decide) find?_status rfl (entry.status.startsSolid _)
      (fun rest => moves_read_of (entry.status.moves_reader _ _) _) ?_
    refine readsItems_field (by decide) find?_image rfl (startsSolid_optionalText entry.image _)
      (fun rest => moves_read_of (moves_optionalText entry.image _ _) _) ?_
    exact .none _
  have written : entry.toValue = .record [("uid", .string entry.uid),
      ("title", .string entry.title), ("status", .word entry.status.name),
      ("image", .optionalText entry.image)] := by
    unfold toValue Value.optionalText
    cases entry.image <;> rfl
  have complete : Partial.complete
      ⟨some entry.uid, some entry.title, some entry.status, some entry.image⟩ = .ok entry := rfl
  rw [written]
  exact reads.moves_record complete rest

end Entry

namespace Feed

/-- A feed is read from its text. -/
theorem moves_reader (depth level : Nat) (feed : Feed) (rest : List Char) :
    Moves (reader depth) (feed.toValue.write level ++ rest) feed rest := by
  have reads := moves_map put level feed.pairs (fun pair _ => startsSolid_record _ _)
    (fun pair _ rest => pair.2.moves_reader depth _ _) empty rest
  rwa [foldl_put_pairs] at reads

end Feed

namespace Snapshot

/-- An instant is read from its text. -/
theorem moves_instantReader (instant : Time.Instant) (level : Nat) (rest : List Char) :
    Moves instantReader ((Value.string instant.write).write level ++ rest) instant rest := by
  refine (moves_writtenString level instant.write rest).bind ?_
  rw [instant.read_write]
  exact .pure instant rest

/-- The expiry of a snapshot is found by its name. -/
theorem find?_expiry : fields.find? (fun field => field.name == "expires_at") =
    some (.of "expires_at" Partial.expiry
      (fun state expiry => { state with expiry := some expiry }) instantReader) := by
  simp [fields, RecordField.of]

/-- The feed of a snapshot is found by its name. -/
theorem find?_feed : fields.find? (fun field => field.name == "feed") =
    some (.of "feed" Partial.feed (fun state feed => { state with feed := some feed })
      (Feed.reader (depthLimit - 6))) := by
  simp [fields, RecordField.of]

/-- A snapshot is read from its text. -/
theorem moves_reader (snapshot : Snapshot) (level : Nat) (rest : List Char) :
    Moves reader (snapshot.toValue.write level ++ rest) snapshot rest := by
  have reads : ReadsItems (field recordName (depthLimit - 2) fields) ')'
      ([("expires_at", .string snapshot.expiry.write), ("feed", snapshot.feed.toValue)].map
        (fieldText level))
      {} ⟨some snapshot.expiry, some snapshot.feed⟩ := by
    refine readsItems_field (by decide) find?_expiry rfl (startsSolid_string _ _)
      (fun rest => moves_read_of (moves_instantReader _ _ _) _) ?_
    refine readsItems_field (by decide) find?_feed rfl (startsSolid_map _ _)
      (fun rest => moves_read_of (snapshot.feed.moves_reader _ _ _) _) ?_
    exact .none _
  have complete : Partial.complete ⟨some snapshot.expiry, some snapshot.feed⟩ = .ok snapshot := rfl
  exact reads.moves_record complete rest

/-- The document of a snapshot is read as it. -/
theorem ofDocument_document (snapshot : Snapshot) :
    ofDocument snapshot.document = .ok snapshot := by
  have move : Moves (Reader.document reader) snapshot.document.toList snapshot [] := by
    have text : snapshot.document.toList = snapshot.toValue.write 0 := String.toList_ofList
    have noHeader : (snapshot.toValue.write 0).head? ≠ some '#' := by
      rw [toValue, Value.write_record]
      exact fun same => absurd (Option.some.inj same) (by decide)
    have reads := snapshot.moves_reader 0 []
    rw [List.append_nil] at reads
    rw [text]
    exact moves_document (startsSolid_record 0 _) noHeader reads
  exact read_of_moves move

end Snapshot
end QuizFeed
