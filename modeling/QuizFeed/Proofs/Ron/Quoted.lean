import QuizFeed.Proofs.Ron.Moves
import QuizFeed.Text.Quoted

/-!
# Reading quoted text

What is written as quoted text is read as the text that was quoted, whatever characters it has. A
character stands either for itself, or behind a backslash for an escape that is read as it.
-/

namespace QuizFeed.Ron.Reader

variable {text rest : List Char}

/-- The number that hexadecimal digits add to one read before them. -/
def hexadecimalValue (before : Nat) (digits : List Char) : Nat :=
  digits.foldl (fun value digit => value * 16 + (hexadecimal? digit).getD 0) before

/-- The character of a digit is read as this digit. -/
theorem hexadecimal?_digitChar {digit : Nat} (small : digit < 16) :
    hexadecimal? digit.digitChar = some digit := by
  have all : ∀ digit : Fin 16, hexadecimal? digit.val.digitChar = some digit.val := by decide
  exact all ⟨digit, small⟩

/-- A number is written with digits. -/
theorem hexadecimal?_of_mem {number : Nat} {digit : Char}
    (member : digit ∈ Text.hexadecimal number) : (hexadecimal? digit).isSome := by
  unfold Text.hexadecimal at member
  induction number using Nat.strongRecOn with
  | _ number inductionHypothesis =>
    rw [Nat.toDigits_eq_if (by decide)] at member
    split at member
    case isTrue small =>
      rw [List.mem_singleton.mp member, hexadecimal?_digitChar small]
      rfl
    case isFalse large =>
      rcases List.mem_append.mp member with earlier | last
      · exact inductionHypothesis (number / 16) (by omega) earlier
      · rw [List.mem_singleton.mp last, hexadecimal?_digitChar (Nat.mod_lt _ (by decide))]
        rfl

/-- The hexadecimal digits of a number have its value. -/
theorem hexadecimalValue_hexadecimal (number : Nat) :
    hexadecimalValue 0 (Text.hexadecimal number) = number := by
  unfold hexadecimalValue Text.hexadecimal
  induction number using Nat.strongRecOn with
  | _ number inductionHypothesis =>
    rw [Nat.toDigits_eq_if (by decide)]
    split
    case isTrue small => simp [hexadecimal?_digitChar small]
    case isFalse large =>
      rw [List.foldl_append, inductionHypothesis (number / 16) (by omega)]
      simp only [List.foldl_cons, List.foldl_nil,
        hexadecimal?_digitChar (Nat.mod_lt number (by decide : 16 > 0)), Option.getD_some]
      omega

/-- A digit is read as its value. -/
theorem moves_hexadecimalDigit {digit : Char} (isDigit : (hexadecimal? digit).isSome)
    (rest : List Char) :
    Moves hexadecimalDigit (digit :: rest) ((hexadecimal? digit).getD 0) rest := by
  obtain ⟨value, found⟩ := Option.isSome_iff_exists.mp isDigit
  refine (moves_step digit rest).bind ?_
  rw [found]
  exact .pure value rest

/-- Digits before a closing brace are read, if they are no more than may follow. -/
theorem moves_escapedCode {digits : List Char} {more : Nat}
    (areDigits : ∀ digit ∈ digits, (hexadecimal? digit).isSome) (enough : digits.length ≤ more)
    (count value : Nat) (rest : List Char) :
    Moves (escapedCode count value more) (digits ++ '\x7d' :: rest)
      (count + digits.length, hexadecimalValue value digits) ('\x7d' :: rest) := by
  induction digits generalizing count value more with
  | nil =>
    cases more with
    | zero => exact .pure _ _
    | succ more => exact (moves_peek _).bind (.pure _ _)
  | cons digit digits inductionHypothesis =>
    obtain ⟨more, rfl⟩ : ∃ fewer, more = fewer + 1 := ⟨more - 1, by simp at enough; omega⟩
    have isDigit := areDigits digit (List.mem_cons_self ..)
    have noBrace : digit ≠ '\x7d' := by
      rintro rfl
      exact absurd isDigit (by decide)
    have fits : digits.length ≤ more := by simpa using enough
    refine (moves_peek _).bind ?_
    simp only [List.cons_append, List.head?_cons]
    refine (moves_hexadecimalDigit isDigit _).bind ?_
    have further := inductionHypothesis
      (fun digit member => areDigits digit (List.mem_cons_of_mem _ member)) fits
      (count + 1) (value * 16 + (hexadecimal? digit).getD 0)
    rw [Nat.add_right_comm, Nat.add_assoc] at further
    exact further

/-- A character is found by its code. -/
theorem characterWithCode?_toNat (character : Char) :
    characterWithCode? character.toNat = some character := by
  have valid : character.toNat.isValidChar := character.valid
  unfold characterWithCode?
  rw [dif_pos valid]
  congr 1

/-- The code of a character has at most six digits. -/
theorem length_hexadecimal_toNat (character : Char) :
    (Text.hexadecimal character.toNat).length ≤ 6 := by
  refine (Nat.length_toDigits_le_iff (by decide) (by decide)).mpr ?_
  have valid := character.valid
  change character.toNat.isValidChar at valid
  unfold Nat.isValidChar at valid
  omega

/-- The code of a character between braces is read as it. -/
theorem moves_escapedCharacter (character : Char) (rest : List Char) :
    Moves escapedCharacter
      ('\x7b' :: (Text.hexadecimal character.toNat ++ '\x7d' :: rest)) character rest := by
  refine (moves_expect _ _ _).bind ?_
  have digits := moves_escapedCode
    (fun digit member => hexadecimal?_of_mem member)
    (length_hexadecimal_toNat character) 0 0 rest
  rw [hexadecimalValue_hexadecimal] at digits
  refine digits.bind ?_
  have some : 0 + (Text.hexadecimal character.toNat).length ≠ 0 := by
    rw [Nat.zero_add]
    exact Nat.pos_iff_ne_zero.mp Nat.length_toDigits_pos
  simp only [if_neg some]
  refine (moves_expect _ _ _).bind ?_
  rw [characterWithCode?_toNat]
  exact .pure _ _

/-- A character that stands for itself in quoted text. -/
def IsPlain (character : Char) : Prop :=
  Text.escape character = [character] ∧ character ≠ '"' ∧ character ≠ '\\'

/-- A character that stands behind a backslash in quoted text. -/
def IsEscaped (character : Char) : Prop :=
  ∃ tail, Text.escape character = '\\' :: tail ∧
    ∀ rest, Moves (escape .string) (tail ++ rest) character rest

/-- A character that is written by its code is read back. -/
theorem isEscaped_code {character : Char}
    (written : Text.escape character = Text.escapeCode character) : IsEscaped character := by
  refine ⟨'u' :: '\x7b' :: (Text.hexadecimal character.toNat ++ ['\x7d']), written, fun rest => ?_⟩
  simp only [List.cons_append, List.append_assoc, List.nil_append]
  refine (moves_step 'u' _).bind ?_
  refine (moves_escapedCharacter character rest).bind ?_
  rw [if_neg (by decide)]
  exact .pure _ _

/-- Every character is plain or escaped. -/
theorem isPlain_or_isEscaped (character : Char) : IsPlain character ∨ IsEscaped character := by
  unfold IsPlain
  by_cases null : character = '\x00'
  · subst null
    exact .inr ⟨['0'], rfl, fun rest => (moves_step '0' rest).bind (.pure _ _)⟩
  by_cases tab : character = '\t'
  · subst tab
    exact .inr ⟨['t'], rfl, fun rest => (moves_step 't' rest).bind (.pure _ _)⟩
  by_cases carriage : character = '\r'
  · subst carriage
    exact .inr ⟨['r'], rfl, fun rest => (moves_step 'r' rest).bind (.pure _ _)⟩
  by_cases line : character = '\n'
  · subst line
    exact .inr ⟨['n'], rfl, fun rest => (moves_step 'n' rest).bind (.pure _ _)⟩
  by_cases marked : character = '\\' ∨ character = '"' ∨ character = '\''
  · refine .inr ?_
    rcases marked with rfl | rfl | rfl
    · exact ⟨['\\'], rfl, fun rest => (moves_step '\\' rest).bind (.pure _ _)⟩
    · exact ⟨['"'], rfl, fun rest => (moves_step '"' rest).bind (.pure _ _)⟩
    · exact ⟨['\''], rfl, fun rest => (moves_step '\'' rest).bind (.pure _ _)⟩
  have written : Text.escape character =
      if Text.isExtending character then Text.escapeCode character
      else if Text.isPrintable character then [character] else Text.escapeCode character := by
    unfold Text.escape
    rw [if_neg null, if_neg tab, if_neg carriage, if_neg line, if_neg marked]
  by_cases itself : Text.isExtending character = false ∧ Text.isPrintable character = true
  · refine .inl ⟨by simp [written, itself], ?_, ?_⟩
    · exact fun quote => marked (.inr (.inl quote))
    · exact fun backslash => marked (.inl backslash)
  · refine .inr (isEscaped_code ?_)
    rw [written]
    grind

/-- The characters before the first one that is escaped. -/
theorem exists_plain_prefix (text : List Char) :
    ∃ plain others, text = plain ++ others ∧ (∀ character ∈ plain, IsPlain character) ∧
      (others = [] ∨ ∃ first tail, others = first :: tail ∧ IsEscaped first) := by
  induction text with
  | nil => exact ⟨[], [], rfl, by simp, .inl rfl⟩
  | cons first text inductionHypothesis =>
    rcases isPlain_or_isEscaped first with plain | escaped
    · obtain ⟨run, others, rfl, arePlain, ending⟩ := inductionHypothesis
      exact ⟨first :: run, others, rfl, List.forall_mem_cons.mpr ⟨plain, arePlain⟩, ending⟩
    · exact ⟨[], first :: text, rfl, by simp, .inr ⟨first, text, rfl, escaped⟩⟩

/-- Plain characters are written as they are. -/
theorem flatMap_escape_plain (arePlain : ∀ character ∈ text, IsPlain character) :
    text.flatMap Text.escape = text := by
  induction text with
  | nil => rfl
  | cons first text inductionHypothesis =>
    obtain ⟨⟨written, _⟩, others⟩ := List.forall_mem_cons.mp arePlain
    rw [List.flatMap_cons, written, inductionHypothesis others]
    rfl

/-- Plain characters are taken up to a quote or a backslash. -/
theorem takeWhile_plain (arePlain : ∀ character ∈ text, IsPlain character) {stop : Char}
    (stops : stop = '"' ∨ stop = '\\') (rest : List Char) :
    (text ++ stop :: rest).takeWhile (fun character => character != '"' && character != '\\') =
      text := by
  rw [List.takeWhile_append_of_pos, List.takeWhile_cons_of_neg, List.append_nil]
  · rcases stops with rfl | rfl <;> simp
  · intro character member
    simp [(arePlain character member).2]

/-- No character is written with less than one. -/
theorem length_le_flatMap_escape (text : List Char) :
    text.length ≤ (text.flatMap Text.escape).length := by
  induction text with
  | nil => simp
  | cons first text inductionHypothesis =>
    have some : 0 < (Text.escape first).length := by
      rcases isPlain_or_isEscaped first with ⟨written, _⟩ | ⟨tail, written, _⟩ <;> simp [written]
    rw [List.flatMap_cons, List.length_append, List.length_cons]
    omega

/-- What stands behind a run and the character that ends it. -/
theorem moves_advance_run (run : List Char) (stop : Char) (rest : List Char) :
    Moves (advance (run.length + 1)) (run ++ stop :: rest) () rest := by
  have move := moves_advance (run.length + 1) (run ++ stop :: rest)
  rwa [List.drop_length_add_append] at move

/-- The rest of a string up to its closing quote is read as what was quoted. -/
theorem moves_stringRest (unclosed : Cause) {fuel : Nat} (enough : text.length < fuel)
    (gathered rest : List Char) :
    Moves (stringRest .string unclosed fuel gathered) (text.flatMap Text.escape ++ '"' :: rest)
      (gathered ++ text) rest := by
  induction fuel generalizing text gathered with
  | zero => omega
  | succ fuel inductionHypothesis =>
    refine (moves_unread _).bind ?_
    rw [if_neg (by simp)]
    obtain ⟨plain, others, rfl, arePlain, ending⟩ := exists_plain_prefix text
    rw [List.flatMap_append, flatMap_escape_plain arePlain]
    rcases ending with rfl | ⟨first, tail, rfl, coded, written, reads⟩
    case inl =>
      simp only [List.flatMap_nil, List.append_nil]
      rw [takeWhile_plain arePlain (.inl rfl)]
      refine (moves_advance_run plain '"' rest).bind ?_
      rw [List.drop_left, if_pos (by rfl)]
      exact .pure _ rest
    case inr =>
      simp only [List.flatMap_cons, written, List.cons_append, List.append_assoc]
      rw [takeWhile_plain arePlain (.inr rfl)]
      refine (moves_advance_run plain '\\' _).bind ?_
      rw [List.drop_left, if_neg (by simp)]
      refine (reads _).bind ?_
      have fewer : tail.length < fuel := by
        simp only [List.length_append, List.length_cons] at enough
        omega
      have further := inductionHypothesis fewer (gathered ++ plain ++ [first])
      simpa only [List.append_assoc, List.singleton_append] using further

/-- Quoted text is read as the text that was quoted. -/
theorem moves_string (text : String) (rest : List Char) :
    Moves string (Text.quoteList text.toList ++ rest) text rest := by
  unfold Text.quoteList
  rw [List.append_assoc, List.cons_append, List.singleton_append]
  refine (moves_acceptOne '"' _).bind ?_
  refine (moves_unread _).bind ?_
  have enough : text.toList.length <
      (text.toList.flatMap Text.escape ++ '"' :: rest).length + 1 := by
    have longer := length_le_flatMap_escape text.toList
    simp only [List.length_append, List.length_cons]
    omega
  have move := moves_stringRest .expectedStringEnd enough [] rest
  refine move.bind ?_
  rw [List.nil_append, String.ofList_toList]
  exact .pure text rest

end QuizFeed.Ron.Reader
