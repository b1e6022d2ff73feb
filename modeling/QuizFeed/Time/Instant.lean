import QuizFeed.Time.Calendar

/-!
# Instants

An instant is a number of seconds since the start of 1970 and a number of nanoseconds. A leap
second is part of the last second of its minute, with a whole second of nanoseconds more. Instants
are bounded, so adding to one may fail.
-/

namespace QuizFeed.Time

/-- The number of days before the first of January 1970. -/
def epochDays : Int := 719528

/-- The length of a day in seconds. -/
def daySeconds : Int := 86400

/-- The number of nanoseconds in a second. -/
def secondNanoseconds : Nat := 1000000000

/-- The year of the first instant. -/
def firstYear : Int := -262143

/-- The year of the last instant. -/
def lastYear : Int := 262142

/-- The second of the first instant. -/
def firstSecond : Int := (daysBeforeYear firstYear - epochDays) * daySeconds

/-- The second of the last instant. -/
def lastSecond : Int := (daysBeforeYear (lastYear + 1) - epochDays) * daySeconds - 1

/-- Whether a second and nanoseconds make up an instant. -/
def IsInstant (second : Int) (nanosecond : Nat) : Prop :=
  firstSecond ≤ second ∧ second ≤ lastSecond ∧ nanosecond < 2 * secondNanoseconds ∧
    (secondNanoseconds ≤ nanosecond → second % 60 = 59)

instance (second : Int) (nanosecond : Nat) : Decidable (IsInstant second nanosecond) := by
  unfold IsInstant; infer_instance

/-- A point in time. -/
@[ext] structure Instant where
  second : Int
  nanosecond : Nat
  bounded : IsInstant second nanosecond
  deriving DecidableEq

namespace Instant

/-- The instant of a second and nanoseconds, if there is one. -/
def of? (second : Int) (nanosecond : Nat) : Option Instant :=
  if bounded : IsInstant second nanosecond then some ⟨second, nanosecond, bounded⟩ else none

/-- The start of 1970. -/
def epoch : Instant :=
  ⟨0, 0, by decide⟩

instance : Inhabited Instant := ⟨epoch⟩

/-- The instant of a number of milliseconds since the start of 1970. -/
def ofMilliseconds? (milliseconds : Int) : Option Instant :=
  of? (milliseconds / 1000) ((milliseconds % 1000).toNat * 1000000)

/-- Whether an instant lies before another. -/
def precedes (first second : Instant) : Bool :=
  first.second < second.second ||
    (first.second == second.second && first.nanosecond < second.nanosecond)

/-- The instant some seconds later, unless it lies behind the last one; what comes after a leap
second counts from the second that it belongs to. -/
def later? (instant : Instant) (seconds : Nat) : Option Instant :=
  of? (instant.second + seconds) (instant.nanosecond % secondNanoseconds)

/-- The date of an instant. -/
def date (instant : Instant) : Date :=
  .ofDays (instant.second / daySeconds + epochDays)

/-- The seconds of an instant since the start of its day. -/
def secondOfDay (instant : Instant) : Nat :=
  (instant.second % daySeconds).toNat

end Instant
end QuizFeed.Time
