/-!
# Splitting at a separator

What was put together with a separator between the pieces can be taken apart at the separator. The
same pieces come out exactly if none of them has the separator in it (`splitOn_intercalate_iff`).
-/

namespace QuizFeed

variable {α : Type} {separator : α} {pieces : List (List α)}

/-- Pieces with a separator behind each are put together with an empty one at the end. -/
theorem intercalate_concat_nil (separator : α) (pieces : List (List α)) :
    [separator].intercalate (pieces ++ [[]]) = pieces.flatMap (· ++ [separator]) := by
  induction pieces with
  | nil => rfl
  | cons piece rest inductionHypothesis =>
    obtain ⟨next, others, split⟩ := List.exists_cons_of_ne_nil
      (List.append_ne_nil_of_right_ne_nil rest (List.cons_ne_nil ([] : List α) []))
    rw [List.cons_append, List.flatMap_cons, ← inductionHypothesis, split,
      List.intercalate_cons_cons, List.append_assoc]

variable [BEq α] [LawfulBEq α]

/-- No piece of a split list has the separator in it. -/
theorem notMem_of_mem_splitOn {list piece : List α} (member : piece ∈ list.splitOn separator) :
    separator ∉ piece := by
  induction list generalizing piece with
  | nil =>
    obtain rfl := List.mem_singleton.mp member
    exact List.not_mem_nil
  | cons head rest inductionHypothesis =>
    rw [List.splitOn_cons_eq_if_modifyHead] at member
    split at member
    case isTrue =>
      rcases List.mem_cons.mp member with rfl | inside
      · exact List.not_mem_nil
      · exact inductionHypothesis inside
    case isFalse different =>
      obtain ⟨first, others, split⟩ :=
        List.exists_cons_of_ne_nil (List.splitOn_ne_nil separator rest)
      rw [split] at member inductionHypothesis
      rcases List.mem_cons.mp member with rfl | inside
      · have apart : separator ≠ head := fun same => different (beq_iff_eq.mpr same.symm)
        simp [apart, inductionHypothesis List.mem_cons_self]
      · exact inductionHypothesis (List.mem_cons_of_mem _ inside)

/-- What was put together with a separator is split into the same pieces exactly if the separator
is in none of them. -/
theorem splitOn_intercalate_iff (notNil : pieces ≠ []) :
    ([separator].intercalate pieces).splitOn separator = pieces ↔
      ∀ piece ∈ pieces, separator ∉ piece := by
  constructor
  · intro same piece member
    rw [← same] at member
    exact notMem_of_mem_splitOn member
  · intro free
    exact List.splitOn_intercalate separator free notNil

end QuizFeed
