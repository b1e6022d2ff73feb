/-!
# The calendar

Days are counted from the first of January of the year 0, in the calendar of leap years every four
years except in three centuries out of four. `Date.toDays` and `Date.ofDays` are the two directions.
-/

namespace QuizFeed.Time

/-- A day of the calendar; months and days count from one. -/
@[ext] structure Date where
  year : Int
  month : Nat
  day : Nat
  deriving DecidableEq, Repr

/-- Whether a year has 366 days. -/
def isLeapYear (year : Int) : Bool :=
  year % 4 == 0 && (year % 100 != 0 || year % 400 == 0)

/-- The lengths of the months of a year. -/
def monthLengths (leap : Bool) : List Nat :=
  [31, if leap then 29 else 28, 31, 30, 31, 30, 31, 31, 30, 31, 30, 31]

/-- The number of days before a year begins. -/
def daysBeforeYear (year : Int) : Int :=
  365 * year + (year + 3) / 4 - (year + 99) / 100 + (year + 399) / 400

namespace Date

/-- Whether the calendar has such a day. -/
def exists? (date : Date) : Bool :=
  1 ≤ date.month && 1 ≤ date.day &&
    ((monthLengths (isLeapYear date.year))[date.month - 1]?).any (date.day ≤ ·)

/-- The number of days before a date. -/
def toDays (date : Date) : Int :=
  daysBeforeYear date.year +
    daysOf ((monthLengths (isLeapYear date.year)).take (date.month - 1)) + (date.day : Int) - 1
where
  /-- The number of days of some months. -/
  daysOf (months : List Nat) : Nat :=
    months.foldl (· + ·) 0

/-- The year with a given number of days before one of its days. -/
def yearOfDays (days : Int) : Int :=
  let guess := 400 * days / 146097
  if days < daysBeforeYear guess then guess - 1
  else if daysBeforeYear (guess + 1) ≤ days then guess + 1
  else guess

/-- The month and the day with a given number of days between them and the start of `month`. -/
def monthAndDay (month days : Nat) : List Nat → Nat × Nat
  | [] => (month, days + 1)
  | length :: rest =>
    if days < length then (month, days + 1) else monthAndDay (month + 1) (days - length) rest

/-- The date with a given number of days before it. -/
def ofDays (days : Int) : Date :=
  let year := yearOfDays days
  let (month, day) :=
    monthAndDay 1 (days - daysBeforeYear year).toNat (monthLengths (isLeapYear year))
  ⟨year, month, day⟩

end Date
end QuizFeed.Time
