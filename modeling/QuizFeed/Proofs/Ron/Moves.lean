import QuizFeed.Ron.Document

/-!
# How readers move

`Moves reader unread value rest` says that a reader in plain notation gives a value and leaves
`rest` of what it found unread, wherever the mark was. Moves of the parts of a reader combine to a
move of the whole (`Moves.bind`), so a lemma for each part of the notation is all that is needed to
read a document.
-/

namespace QuizFeed.Ron.Reader

/-- A reader in plain notation gives a value and leaves the rest unread. -/
def Moves {α : Type} (reader : Reader α) (unread : List Char) (value : α)
    (rest : List Char) : Prop :=
  ∀ marked, ∃ after, reader ⟨unread, marked, {}⟩ = .ok (value, ⟨rest, after, {}⟩)

variable {α β : Type} {text middle rest : List Char}

/-- A value that is given moves over nothing. -/
theorem Moves.pure (value : α) (text : List Char) :
    Moves (Pure.pure value) text value text :=
  fun marked => ⟨marked, rfl⟩

/-- Moves of two readers one after the other. -/
theorem Moves.bind {first : Reader α} {next : α → Reader β} {value : α} {result : β}
    (start : Moves first text value middle) (finish : Moves (next value) middle result rest) :
    Moves (first >>= next) text result rest := by
  intro marked
  obtain ⟨between, read⟩ := start marked
  obtain ⟨after, readNext⟩ := finish between
  refine ⟨after, ?_⟩
  change (first ⟨text, marked, {}⟩ >>= fun (value, cursor) => next value cursor) = _
  rw [read]
  exact readNext

/-- What is unread can be looked at. -/
theorem moves_unread (text : List Char) : Moves unread text text text :=
  fun marked => ⟨marked, rfl⟩

/-- The next character can be looked at. -/
theorem moves_peek (text : List Char) : Moves peek text text.head? text :=
  fun marked => ⟨marked, rfl⟩

/-- Reading advances by some characters. -/
theorem moves_advance (count : Nat) (text : List Char) :
    Moves (advance count) text () (text.drop count) :=
  fun _ => ⟨text, rfl⟩

/-- One character is read. -/
theorem moves_step (character : Char) (rest : List Char) :
    Moves step (character :: rest) character rest :=
  fun marked => ⟨marked, rfl⟩

/-- A text that comes next is accepted. -/
theorem moves_accept (text rest : List Char) : Moves (accept text) (text ++ rest) true rest := by
  refine (moves_unread _).bind ?_
  rw [if_pos (List.isPrefixOf_iff_prefix.mpr (List.prefix_append text rest))]
  refine (moves_advance text.length _).bind ?_
  rw [List.drop_left]
  exact .pure true rest

/-- Another text is not accepted. -/
theorem moves_accept_other (other : text.isPrefixOf rest = false) :
    Moves (accept text) rest false rest := by
  refine (moves_unread _).bind ?_
  rw [if_neg (by simp [other])]
  exact .pure false rest

/-- A character that is wanted is accepted. -/
theorem moves_acceptOne (character : Char) (rest : List Char) :
    Moves (acceptOne character) (character :: rest) true rest :=
  moves_accept [character] rest

/-- Another character than the one that is wanted is left. -/
theorem moves_acceptOne_other {character first : Char} (different : first ≠ character)
    (rest : List Char) : Moves (acceptOne character) (first :: rest) false (first :: rest) := by
  refine moves_accept_other ?_
  simp [List.isPrefixOf, Ne.symm different]

/-- A character that is expected is read. -/
theorem moves_expect (character : Char) (cause : Cause) (rest : List Char) :
    Moves (expect character cause) (character :: rest) () rest :=
  (moves_acceptOne character rest).bind (.pure () rest)

/-- A character at which reading goes on: white space and comments do not start with it. -/
def IsSolid (character : Char) : Prop :=
  isSpace character = false ∧ character ≠ '/'

instance (character : Char) : Decidable (IsSolid character) := by
  unfold IsSolid; infer_instance

/-- What is taken and what is dropped are all of a text. -/
theorem drop_takeWhile (keep : Char → Bool) (text : List Char) :
    text.drop (text.takeWhile keep).length = text.dropWhile keep := by
  conv => lhs; arg 2; rw [← List.takeWhile_append_dropWhile (p := keep) (l := text)]
  exact List.drop_left

/-- White space is skipped up to a character that is neither white space nor starts a comment. -/
theorem moves_skipSpace {character : Char} (solid : IsSolid character)
    (behind : text.dropWhile isSpace = character :: rest) :
    Moves skipSpace text () (character :: rest) := by
  refine (moves_unread _).bind ?_
  cases text with
  | nil => cases behind
  | cons first others =>
    rw [if_neg (by simp)]
    refine (moves_unread _).bind ?_
    refine (moves_advance _ _).bind ?_
    rw [drop_takeWhile, behind]
    have noComment : Moves skipComment (character :: rest) .none (character :: rest) :=
      (moves_acceptOne_other solid.2 rest).bind (.pure _ _)
    exact noComment.bind (.pure () _)

/-- Nothing is skipped in front of a solid character. -/
theorem moves_skipSpace_solid {character : Char} (solid : IsSolid character) (rest : List Char) :
    Moves skipSpace (character :: rest) () (character :: rest) := by
  refine moves_skipSpace solid ?_
  rw [List.dropWhile_cons_of_neg (by simp [solid.1])]

/-- A comma with white space behind it. -/
theorem moves_comma {character : Char} (solid : IsSolid character)
    (behind : text.dropWhile isSpace = character :: rest) :
    Moves comma (',' :: text) true (character :: rest) := by
  refine (moves_skipSpace_solid (by decide) _).bind ?_
  refine (moves_acceptOne ',' text).bind ?_
  exact (moves_skipSpace solid behind).bind (.pure true _)

/-- Another solid character is no comma. -/
theorem moves_comma_other {character : Char} (solid : IsSolid character)
    (different : character ≠ ',') (rest : List Char) :
    Moves comma (character :: rest) false (character :: rest) :=
  (moves_skipSpace_solid solid rest).bind
    ((moves_acceptOne_other different rest).bind (.pure false _))

/-- Whether a character is in no word, raw or plain. -/
def EndsWord (character : Char) : Prop :=
  isRawCharacter character = false

instance (character : Char) : Decidable (EndsWord character) := by
  unfold EndsWord; infer_instance

/-- What ends a word does not continue an identifier. -/
theorem EndsWord.notContinued {character : Char} (ends : EndsWord character) :
    Text.isIdentifierContinue character = false := by
  unfold EndsWord isRawCharacter at ends
  exact (Bool.or_eq_false_iff.mp ends).2

/-- A word is accepted where it ends. -/
theorem moves_acceptWord (word : String) {character : Char} (ends : EndsWord character)
    (rest : List Char) :
    Moves (acceptWord word) (word.toList ++ character :: rest) true (character :: rest) := by
  refine (moves_unread _).bind ?_
  have seen : sees word.toList (word.toList ++ character :: rest) = true := by
    unfold sees
    rw [List.isPrefixOf_iff_prefix.mpr (List.prefix_append _ _), List.drop_left]
    simp [ends.notContinued]
  rw [if_pos seen]
  refine (moves_advance _ _).bind ?_
  rw [List.drop_left]
  exact .pure true _

/-- A text that does not begin with a word is not accepted as that word. -/
theorem moves_acceptWord_other {word : String} (other : word.toList.isPrefixOf rest = false) :
    Moves (acceptWord word) rest false rest := by
  refine (moves_unread _).bind ?_
  rw [if_neg (by simp [sees, other])]
  exact .pure false rest

end QuizFeed.Ron.Reader
