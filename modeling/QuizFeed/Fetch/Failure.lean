/-!
# Why a download fails
-/

namespace QuizFeed.Fetch

/-- The kinds of failed downloads. -/
inductive Kind where
  | invalidUrl
  | status (code : Nat)
  | timeout
  | redirectLimit
  | tooLarge (greatest : Nat) (actual : Option Nat)
  | network
  deriving DecidableEq, Repr

/-- The wording of a size that may be unknown. -/
def sizeText : Option Nat → String
  | none => "None"
  | some size => "Some(" ++ toString size ++ ")"

/-- The wording of a kind. -/
def Kind.message : Kind → String
  | invalidUrl => "invalid url"
  | status code => "http status " ++ toString code
  | timeout => "timeout"
  | redirectLimit => "redirect limit exceeded"
  | tooLarge greatest actual =>
    "response too large (max " ++ toString greatest ++ ", actual " ++ sizeText actual ++ ")"
  | network => "network error"

/-- A failed download: its kind, and what else is known about it. -/
structure Failure where
  kind : Kind
  detail : String
  deriving DecidableEq, Repr

/-- The wording of a failed download. -/
def Failure.message (failure : Failure) : String :=
  failure.kind.message ++ ": " ++ failure.detail

/-- What a download gives: the bytes that were sent, or why there are none. -/
abbrev Reply := Except Failure ByteArray

end QuizFeed.Fetch
