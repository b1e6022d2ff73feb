import QuizFeed.Proofs.Cache.Contents
import QuizFeed.Proofs.Cache.Naming
import QuizFeed.Proofs.Files.Locations

/-!
# Fingerprints name files

The name of a cache file is written from the first eight bytes of a digest, with two digits for
each. A digest is never shorter (`Digest.length_sha256`), so all names have one form (`HasForm`),
and a name gives the bytes back (`nameOf_inj`). Keys share a file exactly if the digests of their
bytes start alike; as every token has a key of its own, two tokens share one only if their keys
collide (`fileName_faithful`).
-/

namespace QuizFeed

namespace Digest

/-- A number is written in as many bytes as it is asked to be. -/
theorem length_bytesOf (count number : Nat) : (bytesOf count number).length = count := by
  unfold bytesOf
  rw [List.length_map, List.length_reverse, List.length_range]

/-- A digest is the four bytes of each of eight words. -/
theorem length_sha256 (message : List UInt8) : (sha256 message).length = 32 := by
  unfold sha256 State.words
  simp only [List.flatMap_cons, List.flatMap_nil, List.length_append, length_bytesOf,
    List.length_nil]

end Digest

namespace Cache

/-- The form of the names of cache files: sixteen digits between a start and an end that are always
the same. -/
def HasForm (name : String) : Prop :=
  ∃ middle : List Char, middle.length = 16 ∧ (∀ character ∈ middle, character ∈ digits) ∧
    name.toList = "feed-".toList ++ middle ++ ".ron".toList

/-- Two messages collide if they are different but their digests start with the same bytes. -/
structure Collide (first second : List UInt8) : Prop where
  different : first ≠ second
  alike : (Digest.sha256 first).take 8 = (Digest.sha256 second).take 8

variable (key : String)

/-- A fingerprint has eight bytes. -/
theorem length_fingerprint : (fingerprint key).length = 8 := by
  unfold fingerprint
  rw [List.length_take, Digest.length_sha256]
  rfl

/-- The name of a cache file is of the one form. -/
theorem hasForm_fileName : HasForm (fileName key) := by
  refine ⟨(fingerprint key).flatMap hexadecimal, ?_, ?_, ?_⟩
  · rw [length_flatMap_hexadecimal, length_fingerprint]
  · intro character member
    obtain ⟨byte, _, digit⟩ := List.mem_flatMap.mp member
    exact mem_digits_of_mem_hexadecimal digit
  · rw [toList_fileName, List.append_assoc]

/-- The name of a cache file is a plain name, also for those who separate names by backslashes. -/
theorem isPlainName_fileName : Path.isPlainName (fileName key) = true := by
  have single := isSingle_fileName key
  have noSeparator : ∀ character ∈ (fileName key).toList,
      ¬(character = '/' ∨ character = '\\') := by
    rintro character member (rfl | rfl)
    · exact single.noSlash member
    · exact absurd (mem_fileName member) (by decide)
  have notParent : fileName key ≠ ".." :=
    fun same => single.notParent (congrArg String.toList same)
  unfold Path.isPlainName
  simpa [single.notBlank, notParent] using noSeparator

/-- Keys of different tokens share a file only by a collision. -/
theorem fileName_keyOf_eq_iff {token other : String} :
    fileName (keyOf token) = fileName (keyOf other) ↔
      token = other ∨ Collide (Text.bytes (keyOf token)) (Text.bytes (keyOf other)) := by
  rw [fileName_eq_iff]
  constructor
  · intro alike
    by_cases same : token = other
    · exact .inl same
    · exact .inr ⟨fun bytes => same (keyOf_injective (Text.bytes_injective bytes)), alike⟩
  · rintro (rfl | collide)
    · rfl
    · exact collide.alike

/-- The name of a cache file has the same form for every key, and leads to a file of the directory.
Keys share it exactly if the first eight bytes of their digests are the same, and keys of different
tokens only if they collide. -/
theorem fileName_faithful :
    (∀ key : String, HasForm (fileName key) ∧ Path.isPlainName (fileName key) = true ∧
      ∀ directory : Path, (filePath directory key).fileName? = some (fileName key) ∧
        ∀ disk : Files.Disk, disk.destination (filePath directory key) =
          disk.destination directory ++ [fileName key]) ∧
    (∀ key other : String, fileName key = fileName other ↔
      (Digest.sha256 (Text.bytes key)).take 8 = (Digest.sha256 (Text.bytes other)).take 8) ∧
    (∀ key : String, fileName key = nameOf ((Digest.sha256 (Text.bytes key)).take 8)) ∧
    (∀ bytes other : List UInt8, nameOf bytes = nameOf other ↔ bytes = other) ∧
    ∀ token other : String, (keyOf token = keyOf other ↔ token = other) ∧
      (fileName (keyOf token) = fileName (keyOf other) ↔
        token = other ∨ Collide (Text.bytes (keyOf token)) (Text.bytes (keyOf other))) := by
  refine ⟨fun key => ⟨hasForm_fileName key, isPlainName_fileName key, fun directory => ⟨?_, ?_⟩⟩,
    fun key other => fileName_eq_iff, fun key => rfl, fun bytes other => nameOf_inj,
    fun token other => ⟨⟨keyOf_injective, congrArg keyOf⟩, fileName_keyOf_eq_iff⟩⟩
  · exact (Path.fileName?_child directory (isSingle_fileName key)).1
  · exact fun disk => disk.destination_child directory (isSingle_fileName key)

/-- The name for the key of a token. -/
example : fileName (keyOf "t") = "feed-32f8c47a83843b46.ron" := by decide +kernel

end Cache

end QuizFeed
