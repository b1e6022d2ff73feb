import QuizFeed.Text.Direction
import QuizFeed.Url.Domain.Name

/-!
# Directions of ASCII characters

No ASCII character is written from right to left, nor is it a digit of a script that is. The table
of directions lists its rows in ascending order, and the rows up to the end of ASCII have none of
these classes.
-/

namespace QuizFeed.Text

/-- The numbers that one line of the run notation lists come first. -/
theorem exists_runNumbers_cons (line : String) (lines : List String) :
    ∃ rest, (runNumbers (line :: lines)).toList = (runNumbers [line]).toList ++ rest := by
  have extends_step (state : Array Nat × Nat) (symbols : List Char) :
      state.1.toList <+: (symbols.foldl runNumbers.step state).1.toList := by
    induction symbols generalizing state with
    | nil => exact List.prefix_refl _
    | cons symbol rest inductionHypothesis =>
      refine List.IsPrefix.trans ?_ (inductionHypothesis _)
      unfold runNumbers.step
      dsimp only
      split <;> simp
  have extends_lines (state : Array Nat × Nat) (lines : List String) :
      state.1.toList <+:
        (lines.foldl (fun state line => line.toList.foldl runNumbers.step state)
          state).1.toList := by
    induction lines generalizing state with
    | nil => exact List.prefix_refl _
    | cons line rest inductionHypothesis =>
      exact (extends_step state line.toList).trans (inductionHypothesis _)
  obtain ⟨rest, whole⟩ := extends_lines
    (line.toList.foldl runNumbers.step (#[], 0)) lines
  exact ⟨rest, whole.symm⟩

namespace Classification

/-- A class that is found is that of an interval of the table that holds the point. -/
theorem exists_of_search {intervals : Array ClassInterval} {point low high number : Nat}
    (found : search intervals point low high = some number) :
    ∃ interval ∈ intervals.toList, interval.first ≤ point ∧ interval.number = number := by
  fun_induction search intervals point low high with
  | case1 => cases found
  | case2 => simp_all
  | case3 => simp_all
  | case4 low high inside middle interval here notBelow notAbove =>
    refine ⟨interval, ?_, Nat.not_lt.mp notBelow, Option.some.inj found⟩
    exact Array.mem_toList_iff.mpr (Array.mem_of_getElem? here)
  | case5 => cases found

/-- The class of a character is that of an interval that begins at the character or before it. -/
theorem exists_of_classOf {classes : Classification} {character : Char} {number : Nat}
    (found : classes.classOf character = some number) :
    ∃ interval ∈ classes.intervals.toList,
      interval.first ≤ character.toNat ∧ interval.number = number :=
  exists_of_search found

/-- Rows are listed in ascending order. -/
theorem mem_rows {position : Nat} {intervals : Array ClassInterval} {numbers : List Nat}
    {interval : ClassInterval} (found : interval ∈ (rows position intervals numbers).toList) :
    interval ∈ intervals.toList ∨ position ≤ interval.first := by
  fun_induction rows position intervals numbers with
  | case1 position intervals gap length number rest first inductionHypothesis =>
    rcases inductionHypothesis found with before | later
    · rw [Array.toList_push, List.mem_append, List.mem_singleton] at before
      rcases before with before | rfl
      · exact .inl before
      · exact .inr (Nat.le_add_right ..)
    · right
      omega
  | case2 => exact .inl found

/-- How many scalar values the rows that a list of numbers describes go over. -/
def extent : List Nat → Nat
  | gap :: length :: _ :: rest => gap + length + extent rest
  | _ => 0

/-- Rows that are read in two parts are read one after the other. -/
theorem rows_append {first rest : List Nat} (whole : first.length % 3 = 0) (position : Nat)
    (intervals : Array ClassInterval) :
    rows position intervals (first ++ rest) =
      rows (position + extent first) (rows position intervals first) rest := by
  fun_induction extent first generalizing position intervals with
  | case1 gap length number first inductionHypothesis =>
    simp only [List.length_cons] at whole
    simp only [List.cons_append, rows]
    rw [inductionHypothesis (by omega)]
    congr 1
    omega
  | case2 first short =>
    match first with
    | [] => rfl
    | [_] | [_, _] => simp at whole
    | gap :: length :: number :: rest => exact absurd rfl (short gap length number rest)

/-- An interval of a table is among the first ones, which are described by the first numbers of its
first line, or it lies behind them. -/
theorem mem_ofRows (count : Nat) {line : String} {lines : List String} {interval : ClassInterval}
    (whole : ((runNumbers [line]).toList.take count).length % 3 = 0)
    (found : interval ∈ (ofRows (line :: lines)).intervals.toList) :
    interval ∈ (rows 0 #[] ((runNumbers [line]).toList.take count)).toList ∨
      extent ((runNumbers [line]).toList.take count) ≤ interval.first := by
  obtain ⟨rest, split⟩ := exists_runNumbers_cons line lines
  unfold ofRows at found
  rw [split, ← List.take_append_drop count (runNumbers [line]).toList, List.append_assoc,
    rows_append whole, Nat.zero_add] at found
  exact mem_rows found

end Classification

/-- The rows of ASCII have none of the classes of scripts from right to left. -/
theorem three_le_number_of_lt {interval : ClassInterval}
    (found : interval ∈ directionClasses.intervals.toList) (isEarly : interval.first < 0x80) :
    3 ≤ interval.number := by
  rcases Classification.mem_ofRows 45 (by decide) found with first | beyond
  · clear found isEarly
    revert interval
    decide
  · refine absurd (Nat.le_trans ?_ beyond) (Nat.not_le.mpr isEarly)
    decide

end QuizFeed.Text

namespace QuizFeed.Url.Domain

open QuizFeed.Text

/-- No ASCII character belongs to a script from right to left. -/
theorem turnsDirection_of_isAscii {character : Char} (ascii : isAscii character = true) :
    turnsDirection character = false := by
  unfold isAscii at ascii
  rw [decide_eq_true_iff] at ascii
  unfold turnsDirection direction
  cases found : directionClasses.classOf character with
  | none => rfl
  | some number =>
    obtain ⟨interval, listed, isBefore, isNumber⟩ := Classification.exists_of_classOf found
    have beyond := three_le_number_of_lt listed (Nat.lt_of_le_of_lt isBefore ascii)
    rw [isNumber] at beyond
    unfold Direction.ofNumber
    clear found listed isBefore isNumber
    split <;> simp_all

end QuizFeed.Url.Domain
