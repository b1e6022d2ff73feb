/-!
# Feed entries

An entry is what a feed says about one quiz: its identifier, its title, whether it is published,
and the address of its image if it has one.
-/

namespace QuizFeed

/-- Whether a quiz is open to the public. -/
inductive Status where
  | published
  | unpublished
  deriving DecidableEq, Repr

namespace Status

/-- Only the exact text `published` means published; any other text, or none, does not. -/
def ofText (text : Option String) : Status :=
  if text = some "published" then published else unpublished

/-- The flag shown for a status. -/
def flag : Status → Nat
  | published => 1
  | unpublished => 0

end Status

/-- What a feed says about one quiz. -/
@[ext] structure Entry where
  uid : String
  title : String
  status : Status
  image : Option String
  deriving DecidableEq, Repr

end QuizFeed
