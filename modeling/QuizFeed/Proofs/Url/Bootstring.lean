import Mathlib.Data.List.TakeWhile
import Mathlib.Tactic.Ring
import QuizFeed.Url.Domain.Bootstring

/-!
# Labels are read back

What `encode` writes for a label, `decode` reads as that label (`decode_encode`). The reader is kept
in step with the writer: while the writer passes the label for one code, the reader has put in
place the characters with smaller codes, and those with that code that were already passed
(`inPlace`). The distance that the writer has not written yet is how far the reader has to go to
the place the writer has reached (`InStep`).
-/

namespace QuizFeed.Url.Domain.Bootstring

variable {bias place weight total distance basic code next position reached : Nat}
  {label before after : List Char} {progress : Progress}

/-- A digit is read as its value. -/
theorem value?_digit : ∀ value < 36, value? (digit value) = some value := by
  decide

/-- A distance is read back, whatever follows its digits. -/
theorem readDistance_digits (bias place distance weight total : Nat) (rest : List Char) :
    readDistance bias place weight total (distanceDigits bias place distance ++ rest) =
      some (total + distance * weight, rest) := by
  fun_induction distanceDigits bias place distance generalizing weight total with
  | case1 place distance limit small =>
    have limitLe : limit ≤ 26 := threshold_le place bias
    rw [List.singleton_append, readDistance, value?_digit distance (by omega)]
    exact if_pos small
  | case2 place distance limit large inductionHypothesis =>
    have limitPositive : 1 ≤ limit := threshold_pos place bias
    have limitLe : limit ≤ 26 := threshold_le place bias
    have remainder := Nat.mod_lt (distance - limit) (show 0 < 36 - limit by omega)
    have divided := Nat.div_add_mod (distance - limit) (36 - limit)
    generalize (distance - limit) % (36 - limit) = digitBeyond at *
    generalize (distance - limit) / (36 - limit) = quotient at *
    have further : ¬ limit + digitBeyond < limit := by omega
    have whole : distance = limit + digitBeyond + (36 - limit) * quotient := by omega
    rw [List.cons_append, readDistance, value?_digit _ (by omega)]
    change (if limit + digitBeyond < limit then _ else _) = _
    rw [if_neg further, inductionHypothesis]
    congr 2
    conv_rhs => rw [whole]
    ring

/-- A distance is written with at least one digit. -/
theorem distanceDigits_ne_nil (bias place distance : Nat) :
    distanceDigits bias place distance ≠ [] := by
  rw [distanceDigits]
  split <;> simp

/-- A distance leads the reader to the code and the place that it is the way to. -/
theorem decodeDigits_digits {character : Char} (tail : List Char)
    (way : position + distance = (character.toNat - reached) * (label.length + 1) + place)
    (reachable : reached ≤ character.toNat) (inside : place ≤ label.length) :
    decodeDigits position reached bias label (distanceDigits bias 36 distance ++ tail) =
      decodeDigits (place + 1) character.toNat
        (adapt distance (label.length + 1) (position == 0))
        (label.take place ++ character :: label.drop place) tail := by
  have code : reached + (position + distance) / (label.length + 1) = character.toNat := by
    rw [way, Nat.add_comm (_ * _), Nat.add_mul_div_right _ _ (Nat.succ_pos _),
      Nat.div_eq_of_lt (Nat.lt_succ_of_le inside)]
    omega
  have remains : (position + distance) % (label.length + 1) = place := by
    rw [way, Nat.add_comm (_ * _), Nat.add_mul_mod_self_right,
      Nat.mod_eq_of_lt (Nat.lt_succ_of_le inside)]
  have valid : ¬ (character.toNat > 0x10FFFF ∨
      (0xD800 ≤ character.toNat ∧ character.toNat ≤ 0xDFFF)) := by
    have := character.valid
    simp only [UInt32.isValidChar, Nat.isValidChar, Char.toNat_val] at this
    omega
  obtain ⟨first, digits, isDigits⟩ := List.exists_cons_of_ne_nil
    (distanceDigits_ne_nil bias 36 distance)
  have read := readDistance_digits bias 36 distance 1 0 tail
  rw [Nat.zero_add, Nat.mul_one] at read
  rw [isDigits, List.cons_append] at read ⊢
  rw [decodeDigits]
  split
  · rename_i unread
    rw [read] at unread
    cases unread
  · rename_i again
    rw [read] at again
    cases again
    simp only [code, remains, valid, if_false, Char.ofNat_toNat]

/-- The characters that the reader has in place when the writer has passed a part of the label for
some code. -/
def inPlace (code : Nat) (before after : List Char) : List Char :=
  before.filter (·.toNat ≤ code) ++ after.filter (·.toNat < code)

/-- The place that is reached when a part of the label is passed. -/
def placeOf (code : Nat) (before : List Char) : Nat :=
  (before.filter (·.toNat ≤ code)).length

section Passing

variable {character : Char}

/-- Passing a character with another code puts nothing in place. -/
theorem inPlace_other (other : character.toNat ≠ code) :
    inPlace code (before ++ [character]) after = inPlace code before (character :: after) := by
  rcases Nat.lt_or_gt_of_ne other with smaller | greater
  · simp [inPlace, smaller, Nat.le_of_lt smaller]
  · simp [inPlace, Nat.not_le.mpr greater, Nat.not_lt.mpr (Nat.le_of_lt greater)]

/-- Passing a character with the code puts it in its place. -/
theorem inPlace_same (before after : List Char) (character : Char) :
    inPlace character.toNat (before ++ [character]) after =
      (inPlace character.toNat before (character :: after)).take (placeOf character.toNat before) ++
        character ::
          (inPlace character.toNat before (character :: after)).drop
            (placeOf character.toNat before) := by
  simp [inPlace, placeOf]

/-- The place that is reached lies among the characters in place. -/
theorem placeOf_le (code : Nat) (before after : List Char) :
    placeOf code before ≤ (inPlace code before after).length := by
  simp [inPlace, placeOf]

/-- Passing a character reaches the next place if it is in place. -/
theorem placeOf_append (code : Nat) (before : List Char) (character : Char) :
    placeOf code (before ++ [character]) =
      if character.toNat ≤ code then placeOf code before + 1 else placeOf code before := by
  unfold placeOf
  split <;> simp_all

end Passing

/-- The reader of what is written so far has put some characters in place and stands behind the last
of them. From there the distance that is not yet written leads to a code and a place. -/
structure InStep (basic : List Char) (progress : Progress) (characters : List Char)
    (code place position reached : Nat) : Prop where
  reads : ∀ tail, decodeDigits 0 128 72 basic (progress.digits ++ tail) =
    decodeDigits position reached progress.bias characters tail
  way : position + progress.distance = (code - reached) * (characters.length + 1) + place
  reachable : reached ≤ code
  written : progress.written = characters.length
  first : position = 0 ↔ progress.written = basic.length
  least : basic.length ≤ progress.written

/-- Writer and reader stay in step while the writer passes a character. -/
theorem InStep.pass {basic : List Char} {character : Char}
    (inStep : InStep basic progress (inPlace code before (character :: after)) code
      (placeOf code before) position reached) :
    ∃ position reached, InStep basic (progress.pass basic.length code character)
      (inPlace code (before ++ [character]) after) code
      (placeOf code (before ++ [character])) position reached := by
  obtain ⟨reads, way, reachable, written, first, least⟩ := inStep
  rw [placeOf_append]
  rcases Nat.lt_trichotomy character.toNat code with smaller | same | greater
  · -- The character is in place already, and the way leads past it.
    refine ⟨position, reached, ?_⟩
    rw [inPlace_other (Nat.ne_of_lt smaller), if_pos (Nat.le_of_lt smaller), Progress.pass,
      if_pos smaller]
    exact ⟨reads, by rw [← Nat.add_assoc, way, Nat.add_assoc], reachable, written, first, least⟩
  · -- The distance is written, and the reader puts the character in its place.
    subst same
    refine ⟨placeOf character.toNat before + 1, character.toNat, ?_⟩
    have isFirst : (position == 0) = (progress.written == basic.length) := by
      rw [Bool.eq_iff_iff, beq_iff_eq, beq_iff_eq, first]
    rw [if_pos (Nat.le_refl _), Progress.pass, if_neg (Nat.lt_irrefl _), if_pos rfl]
    refine ⟨?_, by simp, Nat.le_refl _, ?_, by simp; omega, by simp; omega⟩
    · intro tail
      rw [List.append_assoc, reads, decodeDigits_digits tail way reachable (placeOf_le ..),
        ← inPlace_same, ← written, isFirst]
    · rw [inPlace_same, List.length_append, List.length_cons, ← Nat.add_assoc, ← List.length_append,
        List.take_append_drop, written]
  · -- The character comes later.
    refine ⟨position, reached, ?_⟩
    rw [inPlace_other (Nat.ne_of_gt greater), if_neg (Nat.not_le.mpr greater), Progress.pass,
      if_neg (Nat.lt_asymm greater), if_neg (Nat.ne_of_gt greater)]
    exact ⟨reads, way, reachable, written, first, least⟩

/-- Writer and reader stay in step while the writer passes the rest of the label. -/
theorem InStep.passAll {basic : List Char}
    (inStep : InStep basic progress (inPlace code before after) code (placeOf code before)
      position reached) :
    ∃ position reached, InStep basic (after.foldl (Progress.pass basic.length code) progress)
      (inPlace code (before ++ after) []) code (placeOf code (before ++ after))
      position reached := by
  induction after generalizing before progress position reached with
  | nil => exact ⟨position, reached, by simpa using inStep⟩
  | cons character after inductionHypothesis =>
    obtain ⟨_, _, passed⟩ := inStep.pass
    obtain ⟨position, reached, all⟩ := inductionHypothesis passed
    exact ⟨position, reached, by simpa using all⟩

/-- From one code the way to a later one goes round all characters in place once for every code
between. -/
theorem InStep.forward {basic : List Char} {characters : List Char}
    (inStep : InStep basic progress characters next 0 position reached) (later : next ≤ code) :
    InStep basic
      { progress with distance := progress.distance + (code - next) * (progress.written + 1) }
      characters code 0 position reached where
  reads := inStep.reads
  way := by
    have reachable := inStep.reachable
    rw [← Nat.add_assoc, inStep.way, inStep.written, Nat.add_zero, ← Nat.add_mul]
    congr 2
    omega
  reachable := Nat.le_trans inStep.reachable later
  written := inStep.written
  first := inStep.first
  least := inStep.least

/-- When all of the label is passed for a code, one more step leads to the next code. -/
theorem InStep.onward {basic : List Char}
    (inStep : InStep basic progress (inPlace code label []) code (placeOf code label)
      position reached) :
    InStep basic { progress with distance := progress.distance + 1 }
      (label.filter (·.toNat < code + 1)) (code + 1) 0 position reached := by
  have same : label.filter (·.toNat < code + 1) = inPlace code label [] := by
    simp only [inPlace, Nat.lt_succ_iff, List.filter_nil, List.append_nil]
  have isLast : placeOf code label = (inPlace code label []).length := by
    simp [inPlace, placeOf]
  rw [same]
  refine ⟨inStep.reads, ?_, Nat.le_succ_of_le inStep.reachable, inStep.written, inStep.first,
    inStep.least⟩
  have reachable := inStep.reachable
  rw [← Nat.add_assoc, inStep.way, isLast, Nat.sub_add_comm reachable, Nat.add_mul, Nat.one_mul]
  rfl

/-- Ascending codes of a label, all of its codes from one on among them. -/
structure Lists (label : List Char) (next : Nat) (codes : List Nat) : Prop where
  ascending : codes.Pairwise (· < ·)
  least : ∀ code ∈ codes, next ≤ code
  all : ∀ character ∈ label, next ≤ character.toNat → character.toNat ∈ codes

/-- No code of the label lies between the next one and those before. -/
theorem Lists.filter_eq {codes : List Nat} (lists : Lists label next (code :: codes)) :
    label.filter (·.toNat < code) = label.filter (·.toNat < next) := by
  refine List.filter_congr fun character found => ?_
  rw [decide_eq_decide]
  constructor
  · intro smaller
    by_contra notBefore
    rcases List.mem_cons.mp (lists.all character found (Nat.not_lt.mp notBefore)) with same | later
    · omega
    · have := List.rel_of_pairwise_cons lists.ascending later
      omega
  · intro smaller
    exact Nat.lt_of_lt_of_le smaller (lists.least code List.mem_cons_self)

/-- The codes behind the first one are listed from the one after it on. -/
theorem Lists.tail {codes : List Nat} (lists : Lists label next (code :: codes)) :
    Lists label (code + 1) codes where
  ascending := lists.ascending.of_cons
  least := fun later found => List.rel_of_pairwise_cons lists.ascending found
  all := by
    intro character found beyond
    have lower := lists.least code List.mem_cons_self
    rcases List.mem_cons.mp (lists.all character found (by omega)) with same | later
    · omega
    · exact later

/-- The reader of all that is written for the codes of a label has the whole label. -/
theorem decodeDigits_encodeCodes {basic : List Char} {codes : List Nat}
    (lists : Lists label next codes)
    (inStep : InStep basic progress (label.filter (·.toNat < next)) next 0 position reached) :
    decodeDigits 0 128 72 basic (encodeCodes label basic.length next progress codes).digits =
      some label := by
  induction codes generalizing next progress position reached with
  | nil =>
    have whole : label.filter (·.toNat < next) = label := by
      rw [List.filter_eq_self]
      intro character found
      by_contra beyond
      have := lists.all character found (by simpa using beyond)
      cases this
    have read := inStep.reads []
    rw [List.append_nil, whole] at read
    rw [encodeCodes, read, decodeDigits]
  | cons code codes inductionHypothesis =>
    have started := inStep.forward (lists.least code List.mem_cons_self)
    rw [← lists.filter_eq] at started
    change InStep basic _ (inPlace code [] label) code (placeOf code []) position reached at started
    obtain ⟨_, _, passed⟩ := started.passAll
    rw [encodeCodes]
    exact inductionHypothesis lists.tail passed.onward

/-- A code that is inserted is listed with the others. -/
theorem mem_insertCode {other : Nat} {codes : List Nat} :
    other ∈ insertCode code codes ↔ other = code ∨ other ∈ codes := by
  induction codes with
  | nil => simp [insertCode]
  | cons first rest inductionHypothesis =>
    rw [insertCode]
    split
    · simp
    · split
      · rw [List.mem_cons, inductionHypothesis, List.mem_cons]
        exact or_left_comm
      · have same : code = first := by omega
        simp [same]

/-- Codes remain ascending when one is inserted. -/
theorem pairwise_insertCode {codes : List Nat} (ascending : codes.Pairwise (· < ·)) :
    (insertCode code codes).Pairwise (· < ·) := by
  induction codes with
  | nil => simp [insertCode]
  | cons first rest inductionHypothesis =>
    obtain ⟨firstLeast, restAscending⟩ := List.pairwise_cons.mp ascending
    rw [insertCode]
    split
    · rename_i smaller
      refine List.pairwise_cons.mpr ⟨?_, ascending⟩
      intro other found
      rcases List.mem_cons.mp found with rfl | later
      · exact smaller
      · exact Nat.lt_trans smaller (firstLeast other later)
    · split
      · rename_i greater
        refine List.pairwise_cons.mpr ⟨?_, inductionHypothesis restAscending⟩
        intro other found
        rcases mem_insertCode.mp found with rfl | later
        · exact greater
        · exact firstLeast other later
      · exact ascending

/-- The codes of a label beyond the basic ones are listed. -/
theorem lists_foldr (label : List Char) :
    Lists label 128 ((label.filter (128 ≤ ·.toNat)).foldr
      (fun character codes => insertCode character.toNat codes) []) := by
  have mem_foldr (characters : List Char) (code : Nat) :
      code ∈ characters.foldr (fun character codes => insertCode character.toNat codes) [] ↔
        ∃ character ∈ characters, character.toNat = code := by
    induction characters with
    | nil => simp
    | cons character rest inductionHypothesis =>
      rw [List.foldr_cons, mem_insertCode, inductionHypothesis]
      simp [eq_comm]
  refine ⟨?_, ?_, ?_⟩
  · induction label.filter (128 ≤ ·.toNat) with
    | nil => exact .nil
    | cons character rest inductionHypothesis => exact pairwise_insertCode inductionHypothesis
  · intro code found
    obtain ⟨character, isBeyond, rfl⟩ := (mem_foldr _ _).mp found
    simpa using (List.mem_filter.mp isBeyond).2
  · intro character found beyond
    exact (mem_foldr _ _).mpr ⟨character, List.mem_filter.mpr ⟨found, by simpa using beyond⟩, rfl⟩

/-- Whether a character is a digit that distances are written with. -/
def IsDigit (character : Char) : Prop :=
  ∃ value < 36, character = digit value

/-- A distance is written with its digits only. -/
theorem isDigit_of_mem_distanceDigits {character : Char}
    (found : character ∈ distanceDigits bias place distance) : IsDigit character := by
  fun_induction distanceDigits bias place distance with
  | case1 place distance limit small =>
    have limitLe : limit ≤ 26 := threshold_le place bias
    exact ⟨distance, by omega, List.mem_singleton.mp found⟩
  | case2 place distance limit large inductionHypothesis =>
    have limitPositive : 1 ≤ limit := threshold_pos place bias
    have limitLe : limit ≤ 26 := threshold_le place bias
    have remainder := Nat.mod_lt (distance - limit) (show 0 < 36 - limit by omega)
    rcases List.mem_cons.mp found with same | later
    · exact ⟨_, by omega, same⟩
    · exact inductionHypothesis later

/-- Only digits are added while a label is written. -/
theorem isDigit_of_mem_encodeCodes {codes : List Nat} {first : Nat}
    (digits : ∀ character ∈ progress.digits, IsDigit character) :
    ∀ character ∈ (encodeCodes label first next progress codes).digits, IsDigit character := by
  have passed (code : Nat) (characters : List Char) (progress : Progress)
      (digits : ∀ character ∈ progress.digits, IsDigit character) :
      ∀ character ∈ (characters.foldl (Progress.pass first code) progress).digits,
        IsDigit character := by
    induction characters generalizing progress with
    | nil => exact digits
    | cons passing rest inductionHypothesis =>
      refine inductionHypothesis _ ?_
      unfold Progress.pass
      split
      · exact digits
      · split
        · intro character found
          rcases List.mem_append.mp found with before | added
          · exact digits character before
          · exact isDigit_of_mem_distanceDigits added
        · exact digits
  induction codes generalizing next progress with
  | nil => exact digits
  | cons code rest inductionHypothesis =>
    rw [encodeCodes]
    exact inductionHypothesis (passed code label _ digits)

/-- A digit is a basic character. -/
theorem IsDigit.lt_128 {character : Char} (isDigit : IsDigit character) :
    character.toNat < 128 := by
  obtain ⟨value, small, rfl⟩ := isDigit
  revert value
  decide

/-- A digit is no hyphen. -/
theorem IsDigit.ne_hyphen {character : Char} (isDigit : IsDigit character) : character ≠ '-' := by
  obtain ⟨value, small, rfl⟩ := isDigit
  revert value
  decide

/-- What is written for a label: its ASCII characters, a hyphen if there are any, and digits. -/
theorem exists_encode (label : List Char) :
    ∃ digits, (∀ character ∈ digits, IsDigit character) ∧
      decodeDigits 0 128 72 (label.filter (·.toNat < 128)) digits = some label ∧
      encode label = label.filter (·.toNat < 128) ++
        (if (label.filter (·.toNat < 128)).isEmpty then [] else ['-']) ++ digits := by
  have started : InStep (label.filter (·.toNat < 128))
      ⟨[], 0, 72, (label.filter (·.toNat < 128)).length⟩ (label.filter (·.toNat < 128)) 128 0
      0 128 := by
    refine ⟨fun tail => rfl, by simp, Nat.le_refl _, rfl, by simp, Nat.le_refl _⟩
  exact ⟨_, isDigit_of_mem_encodeCodes (by simp), decodeDigits_encodeCodes (lists_foldr label)
    started, rfl⟩

/-- The characters that a label is written with. -/
theorem mem_encode {character : Char} (found : character ∈ encode label) :
    (character ∈ label ∧ character.toNat < 128) ∨ character = '-' ∨ IsDigit character := by
  obtain ⟨digits, isDigit, -, written⟩ := exists_encode label
  rw [written, List.append_assoc, List.mem_append, List.mem_append] at found
  rcases found with own | hyphen | added
  · exact .inl (by simpa using List.mem_filter.mp own)
  · split at hyphen
    · cases hyphen
    · exact .inr (.inl (List.mem_singleton.mp hyphen))
  · exact .inr (.inr (isDigit character added))

/-- A label is read back from what is written for it. -/
theorem decode_encode (label : List Char) : decode (encode label) = some label := by
  have small : (encode label).all (·.toNat < 128) = true := by
    rw [List.all_eq_true]
    intro character found
    rw [decide_eq_true_iff]
    rcases mem_encode found with ⟨-, own⟩ | rfl | isDigit
    · exact own
    · decide
    · exact isDigit.lt_128
  obtain ⟨digits, isDigit, read, written⟩ := exists_encode label
  have noHyphen : ∀ character ∈ digits.reverse, (character != '-') = true := fun character found =>
    bne_iff_ne.mpr (isDigit character (List.mem_reverse.mp found)).ne_hyphen
  unfold decode
  rw [if_pos small, written]
  generalize label.filter (·.toNat < 128) = basic at read ⊢
  cases basic with
  | nil =>
    have tail : digits.reverse.takeWhile (· != '-') = digits.reverse :=
      List.takeWhile_eq_self_iff.mpr noHyphen
    simpa [tail, List.drop_of_length_le] using read
  | cons first rest =>
    have tail : (digits.reverse ++ '-' :: (first :: rest).reverse).takeWhile (· != '-') =
        digits.reverse := by
      rw [List.takeWhile_append_of_pos noHyphen]
      simp
    have reversed : (first :: rest ++ ['-'] ++ digits).reverse =
        digits.reverse ++ '-' :: (first :: rest).reverse := by
      simp
    have cut : (digits.reverse ++ '-' :: (first :: rest).reverse).drop (digits.reverse.length + 1) =
        (first :: rest).reverse := by
      rw [List.append_cons, List.drop_left' (by simp)]
    simp only [List.isEmpty_cons, Bool.false_eq_true, if_false, reversed, tail, cut,
      List.reverse_reverse]
    exact read

/-- Whatever is read, only characters beyond ASCII are added. -/
theorem mem_decodeDigits {digits characters : List Char} {character : Char}
    (beyond : 128 ≤ reached)
    (read : decodeDigits position reached bias characters digits = some label)
    (found : character ∈ label) : character ∈ characters ∨ 128 ≤ character.toNat := by
  fun_induction decodeDigits position reached bias characters digits with
  | case1 => exact .inl (Option.some.inj read ▸ found)
  | case2 => cases read
  | case3 => cases read
  | case4 position reached bias characters first digits distance rest readDistance size advance code
      place valid inductionHypothesis =>
    rcases inductionHypothesis (Nat.le_add_right_of_le beyond) read with inPlace | high
    · rcases List.mem_append.mp inPlace with before | behind
      · exact .inl (List.mem_of_mem_take before)
      · rcases List.mem_cons.mp behind with rfl | after
        · have isCharacter : code.isValidChar := by
            unfold Nat.isValidChar
            omega
          rw [Char.ofNat, dif_pos isCharacter]
          exact .inr (Nat.le_add_right_of_le beyond)
        · exact .inl (List.mem_of_mem_drop after)
    · exact .inr high

/-- A label that is read has characters of what it is read from, and characters beyond ASCII. -/
theorem mem_decode {written : List Char} {character : Char} (read : decode written = some label)
    (found : character ∈ label) : character ∈ written ∨ 128 ≤ character.toNat := by
  unfold decode at read
  split at read
  · refine (mem_decodeDigits (Nat.le_refl 128) read found).imp_left fun own => ?_
    exact List.mem_reverse.mp (List.mem_of_mem_drop (List.mem_reverse.mp own))
  · cases read

end QuizFeed.Url.Domain.Bootstring
