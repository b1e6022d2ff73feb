import QuizFeed.Text.Ranges

/-!
# Numbered classes of characters

A property with several values is stored in the run notation as rows of a gap since the previous
row, a length, and the number of the class; scalar values in no row have no class.
-/

namespace QuizFeed.Text

/-- One interval of scalar values and the number of their class. -/
structure ClassInterval where
  first : Nat
  last : Nat
  number : Nat

/-- Numbered classes of scalar values as ascending intervals. -/
structure Classification where
  intervals : Array ClassInterval

namespace Classification

/-- The intervals that a list of numbers describes from a position on. -/
def rows (position : Nat) (intervals : Array ClassInterval) : List Nat → Array ClassInterval
  | gap :: length :: number :: rest =>
    let first := position + gap
    rows (first + length) (intervals.push ⟨first, first + length - 1, number⟩) rest
  | _ => intervals

/-- The classes whose rows a text lists. -/
def ofRows (lines : List String) : Classification :=
  ⟨rows 0 #[] (runNumbers lines).toList⟩

/-- The class of `point` among the positions from `low` up to, but not including, `high`. -/
def search (intervals : Array ClassInterval) (point low high : Nat) : Option Nat :=
  if low < high then
    let middle := (low + high) / 2
    match intervals[middle]? with
    | none => none
    | some interval =>
      if point < interval.first then search intervals point low middle
      else if interval.last < point then search intervals point (middle + 1) high
      else some interval.number
  else none
termination_by high - low

/-- The class of a character. -/
def classOf (classes : Classification) (character : Char) : Option Nat :=
  search classes.intervals character.toNat 0 classes.intervals.size

end Classification
end QuizFeed.Text
