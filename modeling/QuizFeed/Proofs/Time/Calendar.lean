import QuizFeed.Time.Calendar

/-!
# Dates and their days

Every number of days is the number of exactly one day of the calendar: `Date.toDays` takes back
what `Date.ofDays` does, and the dates it gives exist.
-/

namespace QuizFeed.Time

/-- The number of days of a year. -/
def yearLength (year : Int) : Int :=
  if isLeapYear year then 366 else 365

/-- A year ends as many days later as it is long. -/
theorem daysBeforeYear_succ (year : Int) :
    daysBeforeYear (year + 1) = daysBeforeYear year + yearLength year := by
  unfold yearLength isLeapYear daysBeforeYear
  split
  case isTrue leap =>
    simp only [Bool.and_eq_true, Bool.or_eq_true, beq_iff_eq, bne_iff_ne] at leap
    omega
  case isFalse common =>
    simp only [Bool.and_eq_true, Bool.or_eq_true, beq_iff_eq, bne_iff_ne] at common
    omega

/-- Later years start no earlier. -/
theorem daysBeforeYear_mono {year later : Int} (order : year ≤ later) :
    daysBeforeYear year ≤ daysBeforeYear later := by
  unfold daysBeforeYear
  omega

namespace Date

/-- A day lies in its year. -/
theorem yearOfDays_spec (days : Int) :
    daysBeforeYear (yearOfDays days) ≤ days ∧ days < daysBeforeYear (yearOfDays days + 1) := by
  unfold yearOfDays
  dsimp only
  generalize guessed : 400 * days / 146097 = guess
  have before := daysBeforeYear_succ (guess - 1)
  rw [Int.sub_add_cancel] at before
  split
  case isTrue early =>
    rw [Int.sub_add_cancel]
    refine ⟨?_, early⟩
    unfold daysBeforeYear
    omega
  case isFalse notEarly =>
    split
    case isTrue late =>
      refine ⟨late, ?_⟩
      unfold daysBeforeYear
      omega
    case isFalse notLate =>
      exact ⟨by omega, by omega⟩

/-- The days of some months are counted one month after the other. -/
theorem daysOf_cons (length : Nat) (lengths : List Nat) :
    toDays.daysOf (length :: lengths) = length + toDays.daysOf lengths := by
  have shift : ∀ (lengths : List Nat) (start : Nat),
      lengths.foldl (· + ·) start = start + lengths.foldl (· + ·) 0 := by
    intro lengths
    induction lengths with
    | nil => intro start; rfl
    | cons length lengths inductionHypothesis =>
      intro start
      rw [List.foldl_cons, List.foldl_cons, inductionHypothesis (start + length),
        inductionHypothesis (0 + length)]
      omega
  unfold toDays.daysOf
  rw [List.foldl_cons, shift, Nat.zero_add]

/-- The month that some days lead to is reached past whole months, and its day lies in it. -/
theorem monthAndDay_spec (month : Nat) {days : Nat} {lengths : List Nat}
    (within : days < toDays.daysOf lengths) :
    ∃ passed length, lengths[passed]? = some length ∧
      (monthAndDay month days lengths).1 = month + passed ∧
      1 ≤ (monthAndDay month days lengths).2 ∧ (monthAndDay month days lengths).2 ≤ length ∧
      toDays.daysOf (lengths.take passed) + (monthAndDay month days lengths).2 = days + 1 := by
  induction lengths generalizing month days with
  | nil => exact absurd within (Nat.not_lt_zero days)
  | cons length lengths inductionHypothesis =>
    unfold monthAndDay
    split
    case isTrue inside =>
      refine ⟨0, length, rfl, rfl, by simp, inside, ?_⟩
      simp [toDays.daysOf]
    case isFalse behind =>
      rw [daysOf_cons] at within
      obtain ⟨passed, found, isFound, isMonth, positive, bounded, total⟩ :=
        inductionHypothesis (month + 1) (by omega : days - length < toDays.daysOf lengths)
      refine ⟨passed + 1, found, by simpa using isFound, by omega, positive, bounded, ?_⟩
      rw [List.take_succ_cons, daysOf_cons]
      omega

/-- The months of a year have all its days. -/
theorem daysOf_monthLengths (year : Int) :
    (toDays.daysOf (monthLengths (isLeapYear year)) : Int) = yearLength year := by
  unfold yearLength
  cases isLeapYear year <;> rfl

/-- What is true of the date of some days: it has a month of its year, a day of the month, and as
many days before it. -/
theorem ofDays_spec (days : Int) :
    ∃ passed length, (monthLengths (isLeapYear (ofDays days).year))[passed]? = some length ∧
      (ofDays days).month = 1 + passed ∧ 1 ≤ (ofDays days).day ∧ (ofDays days).day ≤ length ∧
      daysBeforeYear (ofDays days).year +
        toDays.daysOf ((monthLengths (isLeapYear (ofDays days).year)).take passed) +
        (ofDays days).day - 1 = days := by
  obtain ⟨notEarlier, notLater⟩ := yearOfDays_spec days
  have within : (days - daysBeforeYear (yearOfDays days)).toNat <
      toDays.daysOf (monthLengths (isLeapYear (yearOfDays days))) := by
    have length := daysOf_monthLengths (yearOfDays days)
    have next := daysBeforeYear_succ (yearOfDays days)
    omega
  obtain ⟨passed, length, isLength, isMonth, positive, bounded, total⟩ :=
    monthAndDay_spec 1 within
  refine ⟨passed, length, isLength, isMonth, positive, bounded, ?_⟩
  change daysBeforeYear (yearOfDays days) +
    toDays.daysOf ((monthLengths (isLeapYear (yearOfDays days))).take passed) +
    ((monthAndDay 1 (days - daysBeforeYear (yearOfDays days)).toNat
      (monthLengths (isLeapYear (yearOfDays days)))).2 : Int) - 1 = days
  omega

/-- The date of some days has that many days before it. -/
theorem toDays_ofDays (days : Int) : (ofDays days).toDays = days := by
  obtain ⟨passed, length, isLength, isMonth, positive, bounded, total⟩ := ofDays_spec days
  unfold toDays
  rw [isMonth, Nat.add_sub_cancel_left]
  exact total

/-- The date of some days is one of the calendar. -/
theorem exists?_ofDays (days : Int) : (ofDays days).exists? = true := by
  obtain ⟨passed, length, isLength, isMonth, positive, bounded, total⟩ := ofDays_spec days
  unfold exists?
  rw [isMonth, Nat.add_sub_cancel_left, isLength]
  simp [positive, bounded]

/-- A year has twelve months. -/
theorem length_monthLengths (leap : Bool) : (monthLengths leap).length = 12 := by
  rfl

/-- No month is longer than 31 days. -/
theorem monthLengths_le {leap : Bool} {length : Nat} (member : length ∈ monthLengths leap) :
    length ≤ 31 := by
  revert length
  cases leap <;> decide

/-- A date of the calendar has a month and a day of two digits at most. -/
theorem bounds_of_exists {date : Date} (real : date.exists? = true) :
    (1 ≤ date.month ∧ date.month ≤ 12) ∧ 1 ≤ date.day ∧ date.day ≤ 31 := by
  unfold exists? at real
  simp only [Bool.and_eq_true, decide_eq_true_eq, Option.any_eq_true] at real
  obtain ⟨⟨someMonth, someDay⟩, length, isLength, bounded⟩ := real
  obtain ⟨inside, found⟩ := List.getElem?_eq_some_iff.mp isLength
  rw [length_monthLengths] at inside
  have short := monthLengths_le (found ▸ List.getElem_mem _)
  exact ⟨⟨someMonth, by omega⟩, someDay, by omega⟩

/-- The year of some days that lie between the starts of two years. -/
theorem year_ofDays_bounds {days first last : Int} (notBefore : daysBeforeYear first ≤ days)
    (notBehind : days < daysBeforeYear (last + 1)) :
    first ≤ (ofDays days).year ∧ (ofDays days).year ≤ last := by
  obtain ⟨notEarlier, notLater⟩ := yearOfDays_spec days
  change first ≤ yearOfDays days ∧ yearOfDays days ≤ last
  constructor
  · refine Decidable.byContradiction fun before => ?_
    have order := daysBeforeYear_mono (by omega : yearOfDays days + 1 ≤ first)
    omega
  · refine Decidable.byContradiction fun behind => ?_
    have order := daysBeforeYear_mono (by omega : last + 1 ≤ yearOfDays days)
    omega

end Date
end QuizFeed.Time
