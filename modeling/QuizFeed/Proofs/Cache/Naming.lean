import QuizFeed.Cache.Key
import QuizFeed.Files.Disk
import QuizFeed.Proofs.Files.Pieces

/-!
# Names of cache files

The name of a cache file is a single short name, whatever the key (`isSingle_fileName`), and it
tells fingerprints of keys apart (`fileName_eq_iff`).
-/

namespace QuizFeed.Cache

/-- The characters that digests are written with. -/
def digits : List Char :=
  ['0', '1', '2', '3', '4', '5', '6', '7', '8', '9', 'a', 'b', 'c', 'd', 'e', 'f']

/-- A digit is one of the sixteen. -/
theorem digitOf_mem_digits {value : Nat} (small : value < 16) : digitOf value ∈ digits := by
  have all : ∀ value : Fin 16, digitOf value.val ∈ digits := by decide
  exact all ⟨value, small⟩

/-- Different values have different digits. -/
theorem digitOf_injective {first second : Nat} (smallFirst : first < 16) (smallSecond : second < 16)
    (same : digitOf first = digitOf second) : first = second := by
  have all : ∀ first second : Fin 16, digitOf first.val = digitOf second.val → first = second := by
    decide
  exact congrArg Fin.val (all ⟨first, smallFirst⟩ ⟨second, smallSecond⟩ same)

/-- A byte is written with digits only. -/
theorem mem_digits_of_mem_hexadecimal {byte : UInt8} {character : Char}
    (member : character ∈ hexadecimal byte) : character ∈ digits := by
  have small := byte.toNat_lt
  simp only [hexadecimal, List.mem_cons, List.not_mem_nil, or_false] at member
  rcases member with rfl | rfl
  · exact digitOf_mem_digits (by omega)
  · exact digitOf_mem_digits (by omega)

/-- Different bytes are written differently. -/
theorem hexadecimal_injective {first second : UInt8}
    (same : hexadecimal first = hexadecimal second) : first = second := by
  have smallFirst := first.toNat_lt
  have smallSecond := second.toNat_lt
  simp only [hexadecimal, List.cons.injEq, and_true] at same
  have high := digitOf_injective (by omega) (by omega) same.1
  have low := digitOf_injective (by omega) (by omega) same.2
  exact UInt8.toNat_inj.mp (by omega)

/-- Bytes can be told from their hexadecimal digits. -/
theorem flatMap_hexadecimal_injective {first second : List UInt8}
    (same : first.flatMap hexadecimal = second.flatMap hexadecimal) : first = second := by
  induction first generalizing second with
  | nil =>
    cases second with
    | nil => rfl
    | cons byte rest => simp [hexadecimal] at same
  | cons byte rest inductionHypothesis =>
    cases second with
    | nil => simp [hexadecimal] at same
    | cons other others =>
      rw [List.flatMap_cons, List.flatMap_cons] at same
      obtain ⟨head, tail⟩ := List.append_inj same rfl
      rw [hexadecimal_injective head, inductionHypothesis tail]

/-- Every byte takes two digits. -/
theorem length_flatMap_hexadecimal (bytes : List UInt8) :
    (bytes.flatMap hexadecimal).length = 2 * bytes.length := by
  induction bytes with
  | nil => rfl
  | cons byte rest inductionHypothesis =>
    rw [List.flatMap_cons, List.length_append, inductionHypothesis, List.length_cons]
    simp only [hexadecimal, List.length_cons, List.length_nil]
    omega

/-- The name that is written for some bytes of a digest. -/
def nameOf (bytes : List UInt8) : String :=
  "feed-" ++ String.ofList (bytes.flatMap hexadecimal) ++ ".ron"

/-- A file is named by the digits of some bytes between a fixed start and a fixed end. -/
theorem toList_nameOf (bytes : List UInt8) :
    (nameOf bytes).toList = "feed-".toList ++ (bytes.flatMap hexadecimal ++ ".ron".toList) := by
  unfold nameOf
  simp only [String.toList_append, String.toList_ofList, List.append_assoc]

/-- No two sequences of bytes share a name. -/
theorem nameOf_inj {bytes other : List UInt8} : nameOf bytes = nameOf other ↔ bytes = other := by
  constructor
  · intro same
    have lists := congrArg String.toList same
    rw [toList_nameOf, toList_nameOf] at lists
    exact flatMap_hexadecimal_injective
      (List.append_cancel_right (List.append_cancel_left lists))
  · rintro rfl
    rfl

variable {key other : String}

/-- The file of a key is named by the digits of its fingerprint. -/
theorem toList_fileName (key : String) :
    (fileName key).toList =
      "feed-".toList ++ ((fingerprint key).flatMap hexadecimal ++ ".ron".toList) :=
  toList_nameOf _

/-- Keys have files of the same name exactly if they have the same fingerprint. -/
theorem fileName_eq_iff : fileName key = fileName other ↔ fingerprint key = fingerprint other :=
  nameOf_inj

/-- In one directory, keys have files at the same place exactly if they have the same
fingerprint. -/
theorem concat_fileName_eq_iff {location : Files.Location} :
    location ++ [fileName key] = location ++ [fileName other] ↔
      fingerprint key = fingerprint other := by
  rw [List.append_cancel_left_eq, List.singleton_inj, fileName_eq_iff]

/-- The characters of the name of a cache file. -/
theorem mem_fileName {character : Char} (member : character ∈ (fileName key).toList) :
    character ∈ "feed-".toList ++ digits ++ ".ron".toList := by
  rw [toList_fileName] at member
  simp only [List.mem_append, List.mem_flatMap] at member ⊢
  rcases member with start | ⟨byte, _, digit⟩ | ending
  · exact .inl (.inl start)
  · exact .inl (.inr (mem_digits_of_mem_hexadecimal digit))
  · exact .inr ending

/-- The name of a cache file is a single name. -/
theorem isSingle_fileName (key : String) : Path.IsSingle (fileName key) := by
  refine ⟨fun slash => ?_, ?_, ?_⟩
  · exact absurd (mem_fileName slash) (by decide)
  · rw [toList_fileName]
    rfl
  · rw [toList_fileName]
    intro dots
    cases dots

/-- The name of a cache file is one that a system can take. -/
theorem null_notMem_fileName (key : String) : '\x00' ∉ (fileName key).toList :=
  fun null => absurd (mem_fileName null) (by decide)

/-- A character takes at most four bytes. -/
theorem utf8ByteSize_ofList_le (text : List Char) :
    (String.ofList text).utf8ByteSize ≤ 4 * text.length := by
  induction text with
  | nil => exact Nat.le_refl 0
  | cons character rest inductionHypothesis =>
    have size := character.utf8Size_le_four
    rw [String.ofList_cons, String.utf8ByteSize_append, String.utf8ByteSize_singleton,
      List.length_cons]
    omega

/-- The name of a cache file is no longer than names may be. -/
theorem utf8ByteSize_fileName_le (key : String) :
    (fileName key).utf8ByteSize ≤ Files.Disk.nameLimit := by
  have size := utf8ByteSize_ofList_le (fileName key).toList
  have few : (fingerprint key).length ≤ 8 := List.length_take_le 8 _
  have digits := length_flatMap_hexadecimal (fingerprint key)
  have length : (fileName key).toList.length ≤ 25 := by
    rw [toList_fileName, List.length_append, List.length_append, digits]
    have start : "feed-".toList.length = 5 := by decide
    have ending : ".ron".toList.length = 4 := by decide
    omega
  rw [String.ofList_toList] at size
  unfold Files.Disk.nameLimit
  omega

end QuizFeed.Cache
