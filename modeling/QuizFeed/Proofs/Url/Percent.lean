import Mathlib.Data.Bool.AllAny
import QuizFeed.Proofs.Program.Events
import QuizFeed.Url.Percent

/-!
# Percent encoding happens once

What encoding writes is made of percent signs, digits and the letters from `A` to `F` (`IsCode`).
No set of encoded characters has any of these, so a text that is encoded is its own encoding. A
text without percent signs is what its bytes spell.
-/

namespace QuizFeed.Url.Percent

variable {encoded : Char → Bool} {text : List Char} {character : Char}

/-- A character that encoding may write in place of another. -/
def IsCode (character : Char) : Prop :=
  character = '%' ∨ (48 ≤ character.toNat ∧ character.toNat ≤ 57) ∨
    (65 ≤ character.toNat ∧ character.toNat ≤ 70)

instance : DecidablePred IsCode := fun _ =>
  inferInstanceAs (Decidable (_ ∨ _))

/-- A digit is a character that encoding writes. -/
theorem isCode_hexDigit {value : Nat} (small : value < 16) : IsCode (hexDigit value) := by
  have all : ∀ value : Fin 16, (48 ≤ (hexDigit value).toNat ∧ (hexDigit value).toNat ≤ 57) ∨
      (65 ≤ (hexDigit value).toNat ∧ (hexDigit value).toNat ≤ 70) := by decide
  exact .inr (all ⟨value, small⟩)

/-- A byte is encoded with characters that encoding writes. -/
theorem isCode_of_mem_encodeByte {byte : UInt8} (found : character ∈ encodeByte byte) :
    IsCode character := by
  have bound : byte.toNat < 256 := byte.toNat_lt
  simp only [encodeByte, List.mem_cons, List.not_mem_nil, or_false] at found
  rcases found with rfl | rfl | rfl
  · exact .inl rfl
  · exact isCode_hexDigit (by omega)
  · exact isCode_hexDigit (by omega)

/-- An encoded text has the characters of the text that are not encoded, and codes. -/
theorem mem_encode (found : character ∈ encode encoded text) :
    IsCode character ∨ (character ∈ text ∧ encoded character = false) := by
  obtain ⟨original, inside, found⟩ := List.mem_flatMap.mp found
  split at found
  case isTrue =>
    obtain ⟨byte, _, found⟩ := List.mem_flatMap.mp found
    exact .inl (isCode_of_mem_encodeByte found)
  case isFalse kept =>
    obtain rfl := List.mem_singleton.mp found
    exact .inr ⟨inside, by simpa using kept⟩

/-- Texts after one another are encoded one by one. -/
theorem encode_append (encoded : Char → Bool) (first second : List Char) :
    encode encoded (first ++ second) = encode encoded first ++ encode encoded second :=
  List.flatMap_append

/-- Encoding leaves no character out. -/
theorem encode_ne_nil (encoded : Char → Bool) (notNil : text ≠ []) : encode encoded text ≠ [] := by
  obtain ⟨first, rest, rfl⟩ := List.exists_cons_of_ne_nil notNil
  have spelled : Text.bytes (String.singleton first) ≠ [] := by
    intro none
    have empty : String.singleton first = "" := Text.bytes_injective none
    simpa using congrArg String.toList empty
  obtain ⟨byte, others, spelled⟩ := List.exists_cons_of_ne_nil spelled
  rw [encode, List.flatMap_cons, spelled]
  split <;> simp [encodeByte]

/-- A text in which nothing is to be encoded stays as it is. -/
theorem encode_eq_self (free : ∀ character ∈ text, encoded character = false) :
    encode encoded text = text := by
  induction text with
  | nil => rfl
  | cons character rest inductionHypothesis =>
    have kept := free character List.mem_cons_self
    have others := inductionHypothesis fun other inside => free other (.tail character inside)
    unfold encode at others ⊢
    rw [List.flatMap_cons, others]
    simp [kept]

/-- A text that is encoded is its own encoding. -/
theorem encode_encode (codes : ∀ character, IsCode character → encoded character = false)
    (text : List Char) : encode encoded (encode encoded text) = encode encoded text := by
  refine encode_eq_self fun character found => ?_
  rcases mem_encode found with code | ⟨_, kept⟩
  · exact codes character code
  · exact kept

/-- What encoding writes is no control character. -/
theorem IsCode.not_isControl (code : IsCode character) : isControl character = false := by
  rcases code with rfl | digit | letter
  · rfl
  · simp only [isControl, Bool.or_eq_false_iff, decide_eq_false_iff_not]; omega
  · simp only [isControl, Bool.or_eq_false_iff, decide_eq_false_iff_not]; omega

/-- A code is none of the characters with a meaning of their own in a url. -/
theorem IsCode.notMem {others : List Char} (code : IsCode character)
    (apart : others.all (fun other => ¬ IsCode other) = true) : character ∉ others := fun inside =>
  List.all_iff_forall_prop.mp apart character inside code

/-- What encoding writes is kept in a path. -/
theorem IsCode.not_inPath (code : IsCode character) : inPath character = false := by
  simp only [inPath, inFragment, code.not_isControl, Bool.false_or, Bool.or_eq_false_iff,
    List.contains_eq_mem, decide_eq_false_iff_not]
  exact ⟨code.notMem (by decide), code.notMem (by decide)⟩

/-- An encoded text has no dots where the text has none. -/
theorem dot_notMem_encode (noDot : '.' ∉ text) : '.' ∉ encode encoded text := by
  intro inside
  rcases mem_encode inside with code | ⟨inside, _⟩
  · have apart : '.' ∉ ['.'] := code.notMem (by decide)
    exact apart List.mem_cons_self
  · exact noDot inside

/-- A dot stands for itself in a path. -/
theorem encode_dot (before after : List Char) :
    encode inPath (before ++ '.' :: after) =
      encode inPath before ++ '.' :: encode inPath after := by
  rw [encode_append]
  rfl

/-- The bytes of a text without percent signs are those of its UTF-8 form. -/
theorem decode_of_notMem (free : '%' ∉ text) : decode text = Text.bytes (String.ofList text) := by
  induction text with
  | nil => rfl
  | cons character rest inductionHypothesis =>
    rw [List.mem_cons, not_or] at free
    have joined : String.ofList (character :: rest) =
        String.singleton character ++ String.ofList rest := by
      apply String.toList_inj.mp
      simp
    rw [decode, inductionHypothesis free.2, joined]
    · simp [Text.bytes]
    · rintro high low others rfl
      exact absurd rfl free.1

/-- A text without a percent sign is decoded to itself. -/
theorem fromUTF8?_decode (free : '%' ∉ text) :
    String.fromUTF8? ⟨(decode text).toArray⟩ = some (String.ofList text) := by
  rw [decode_of_notMem free]
  exact fromUTF8?_toUTF8 (String.ofList text)

end QuizFeed.Url.Percent
