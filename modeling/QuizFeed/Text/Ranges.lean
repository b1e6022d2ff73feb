/-!
# Sets of characters as runs

A property of scalar values is stored as run lengths: so many values outside the set, then so
many inside, and so on from zero. Each length is written in base 32, its last digit from
`0…9a…v` and every digit before it from `A…Zwxyz+-`, so a text of runs needs no separators.
`Ranges.contains` looks a scalar value up by halving the ascending list of intervals.
-/

namespace QuizFeed.Text

/-- One symbol of the run notation: its value, and whether it ends a number. -/
def runSymbol (symbol : Char) : Nat × Bool :=
  let code := symbol.toNat
  if 48 ≤ code ∧ code ≤ 57 then (code - 48, true)
  else if 97 ≤ code ∧ code ≤ 118 then (code - 97 + 10, true)
  else if 65 ≤ code ∧ code ≤ 90 then (code - 65, false)
  else if 119 ≤ code ∧ code ≤ 122 then (code - 119 + 26, false)
  else if symbol = '+' then (30, false)
  else (31, false)

/-- The numbers that a text of the run notation lists, from left to right. -/
def runNumbers (lines : List String) : Array Nat :=
  (lines.foldl (fun state line => line.toList.foldl step state) (#[], 0)).1
where
  /-- Extends the number under construction, or completes it. -/
  step (state : Array Nat × Nat) (symbol : Char) : Array Nat × Nat :=
    let (value, last) := runSymbol symbol
    let number := state.2 * 32 + value
    if last then (state.1.push number, 0) else (state.1, number)

/-- A set of scalar values as ascending intervals, both ends included. -/
structure Ranges where
  intervals : Array (Nat × Nat)

namespace Ranges

/-- The set whose alternating gaps and runs a text lists. -/
def ofRuns (lines : List String) : Ranges :=
  let (intervals, _, _) := (runNumbers lines).foldl
    (fun (intervals, position, inside) length =>
      if inside then (intervals.push (position, position + length - 1), position + length, false)
      else (intervals, position + length, true))
    ((#[], 0, false) : Array (Nat × Nat) × Nat × Bool)
  ⟨intervals⟩

/-- Whether an interval at a position from `low` up to, but not including, `high` holds `point`. -/
def search (intervals : Array (Nat × Nat)) (point low high : Nat) : Bool :=
  if low < high then
    let middle := (low + high) / 2
    match intervals[middle]? with
    | none => false
    | some (first, last) =>
      if point < first then search intervals point low middle
      else if last < point then search intervals point (middle + 1) high
      else true
  else false
termination_by high - low

/-- Whether a scalar value belongs to the set. -/
def contains (ranges : Ranges) (character : Char) : Bool :=
  search ranges.intervals character.toNat 0 ranges.intervals.size

end Ranges
end QuizFeed.Text
