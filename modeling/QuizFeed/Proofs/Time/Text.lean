import Mathlib.Algebra.Group.Nat.Defs
import QuizFeed.Proofs.Results
import QuizFeed.Proofs.Time.Calendar
import QuizFeed.Time.Text

/-!
# Reading written instants

An instant is read back from the text that files hold of it, also a leap second and one outside the
years 0 to 9999. The parts of the text are read with whatever follows them.
-/

namespace QuizFeed.Time

/-- A number is written with digits. -/
theorem isDigit_of_mem_toDigits {number : Nat} {digit : Char}
    (member : digit ∈ Nat.toDigits 10 number) : isDigit digit = true := by
  have decimal := Nat.isDigit_of_mem_toDigits (by decide) (by decide) member
  unfold Char.isDigit at decimal
  unfold isDigit
  simp only [Bool.and_eq_true, decide_eq_true_eq, UInt32.le_iff_toNat_le, ge_iff_le] at decimal ⊢
  exact decimal

/-- A number with zeros before it is written with digits. -/
theorem isDigit_of_mem_padded {width number : Nat} {digit : Char}
    (member : digit ∈ padded width number) : isDigit digit = true := by
  rcases List.mem_append.mp member with zero | digits
  · rw [List.eq_of_mem_replicate zero]
    decide
  · exact isDigit_of_mem_toDigits digits

/-- The number of some digits is the one that the library reads from them. -/
theorem numberOf_eq_ofDigitChars (digits : List Char) :
    numberOf digits = Nat.ofDigitChars 10 digits 0 := by
  unfold numberOf
  rw [Nat.ofDigitChars_eq_foldl]
  congr 1
  funext total digit
  rw [Nat.mul_comm]
  rfl

/-- Zeros in front do not change a number. -/
theorem numberOf_padded (width number : Nat) : numberOf (padded width number) = number := by
  unfold padded
  rw [numberOf_eq_ofDigitChars, Nat.ofDigitChars_append, Nat.ofDigitChars_replicate_zero,
    Nat.mul_zero, Nat.ofDigitChars_ten_toDigits]

/-- A number that fits is written in its width. -/
theorem length_padded {width number : Nat} (some : 0 < width) (fits : number < 10 ^ width) :
    (padded width number).length = width := by
  have short := (Nat.length_toDigits_le_iff (by decide) some).mpr fits
  unfold padded
  rw [List.length_append, List.length_replicate]
  omega

/-- A number is written with some characters. -/
theorem padded_ne_nil (width number : Nat) : padded width number ≠ [] := by
  unfold padded
  simp [Nat.toDigits_ne_nil]

/-- What stands first in a text that starts with a number is a digit. -/
theorem isDigit_head {width number : Nat} {first : Char} {rest others : List Char}
    (starts : padded width number ++ rest = first :: others) : isDigit first = true := by
  cases digits : padded width number with
  | nil => exact absurd digits (padded_ne_nil width number)
  | cons digit further =>
    rw [digits] at starts
    cases starts
    exact isDigit_of_mem_padded (digits ▸ List.mem_cons_self ..)

/-- A digit is no white space. -/
theorem isBlank_of_isDigit {character : Char} (digit : isDigit character = true) :
    Text.isBlank character = false := by
  unfold isDigit at digit
  unfold Text.isBlank
  simp only [Bool.and_eq_true, decide_eq_true_eq] at digit
  grind

/-- No white space is passed over before a character that is none. -/
theorem skipBlanks_cons {character : Char} (solid : Text.isBlank character = false)
    (rest : List Char) : skipBlanks (character :: rest) = character :: rest :=
  List.dropWhile_cons_of_neg (by simp [solid])

/-- No white space is passed over before a number. -/
theorem skipBlanks_padded (width number : Nat) (rest : List Char) :
    skipBlanks (padded width number ++ rest) = padded width number ++ rest := by
  generalize spelled : padded width number ++ rest = text
  cases text with
  | nil => exact absurd (List.append_eq_nil_iff.mp spelled).1 (padded_ne_nil width number)
  | cons first others => exact skipBlanks_cons (isBlank_of_isDigit (isDigit_head spelled)) others

/-- A number with zeros in front is read up to what is no digit, if it is no longer than allowed. -/
theorem readNumber_padded {limit : Option Nat} {width number : Nat}
    (allowed : ∀ most ∈ limit, (padded width number).length ≤ most)
    (small : number ≤ greatestNumber) {stop : Char} (stops : isDigit stop = false)
    (rest : List Char) :
    readNumber limit (padded width number ++ stop :: rest) = .ok (number, stop :: rest) := by
  have run : (padded width number ++ stop :: rest).takeWhile isDigit = padded width number := by
    rw [List.takeWhile_append_of_pos fun _ => isDigit_of_mem_padded,
      List.takeWhile_cons_of_neg (by simp [stops]), List.append_nil]
  unfold readNumber
  dsimp only
  rw [run]
  cases limit
  case' some most =>
    dsimp only
    rw [List.take_of_length_le (allowed most rfl)]
  all_goals
    split
    case h_1 empty => simp at empty
    case h_2 => exact absurd (by assumption) (padded_ne_nil width number)
    case h_3 => rw [numberOf_padded, if_neg (by omega), List.drop_left]

/-- A field within its bounds is read from its two digits. -/
theorem readField_padded {least greatest number : Nat} (notLess : least ≤ number)
    (notMore : number ≤ greatest) (short : greatest < 100) {stop : Char}
    (stops : isDigit stop = false) (rest : List Char) :
    readField least greatest (padded 2 number ++ stop :: rest) = .ok (number, stop :: rest) := by
  have fits : (padded 2 number).length ≤ 2 :=
    Nat.le_of_eq (length_padded (by decide) (by omega))
  have small : number ≤ greatestNumber := by
    have wide : 100 ≤ greatestNumber := by decide
    omega
  unfold readField
  rw [skipBlanks_padded, readNumber_padded (by simpa using fits) small stops]
  simp only [bind, Except.bind]
  rw [if_neg (by omega)]

/-- A mark is read where it stands. -/
theorem readMark_cons {mark : Char} (solid : Text.isBlank mark = false) (rest : List Char) :
    readMark mark (mark :: rest) = .ok rest := by
  unfold readMark
  rw [skipBlanks_cons solid]
  exact if_pos rfl

/-- A year is read from its text, whether it has a sign or not. -/
theorem readYear_writeYear {year : Int} (notBefore : firstYear ≤ year) (notBehind : year ≤ lastYear)
    {stop : Char} (stops : isDigit stop = false) (rest : List Char) :
    readYear (writeYear year ++ stop :: rest) = .ok (year, stop :: rest) := by
  have small : year.natAbs ≤ greatestNumber := by
    have wide : 2147483648 ≤ greatestNumber := by decide
    unfold firstYear at notBefore
    unfold lastYear at notBehind
    omega
  have inside : ¬ (year < -2147483648 ∨ 2147483647 < year) := by
    unfold firstYear at notBefore
    unfold lastYear at notBehind
    omega
  have long : readNumber none (padded 4 year.natAbs ++ stop :: rest) =
      .ok (year.natAbs, stop :: rest) := readNumber_padded (by simp) small stops rest
  by_cases plain : 0 ≤ year ∧ year ≤ 9999
  · have written : writeYear year = padded 4 year.natAbs := by
      unfold writeYear
      rw [if_pos plain]
      congr 1
      omega
    have short : (padded 4 year.natAbs).length ≤ 4 :=
      Nat.le_of_eq (length_padded (by decide) (by omega))
    unfold readYear
    rw [written, skipBlanks_padded]
    split
    case h_1 minus =>
      exact absurd (isDigit_head minus) (by decide)
    case h_2 plus =>
      exact absurd (isDigit_head plus) (by decide)
    case h_3 =>
      rw [readNumber_padded (by simpa using short) small stops]
      have value : (year.natAbs : Int) = year := by omega
      simp only [Except.map, bind, Except.bind, value]
      exact if_neg inside
  · by_cases negative : year < 0
    · have written : writeYear year = '-' :: padded 4 year.natAbs := by
        unfold writeYear
        rw [if_neg plain, if_pos negative]
      unfold readYear
      rw [written, List.cons_append, skipBlanks_cons (by decide)]
      change ((readNumber none _).map _ >>= _) = _
      rw [long]
      have value : -(year.natAbs : Int) = year := by omega
      simp only [Except.map, bind, Except.bind, value]
      exact if_neg inside
    · have written : writeYear year = '+' :: padded 4 year.natAbs := by
        unfold writeYear
        rw [if_neg plain, if_neg negative]
      unfold readYear
      rw [written, List.cons_append, skipBlanks_cons (by decide)]
      change ((readNumber none _).map _ >>= _) = _
      rw [long]
      have value : (year.natAbs : Int) = year := by omega
      simp only [Except.map, bind, Except.bind, value]
      exact if_neg inside

/-- A date of the calendar is read from its text. -/
theorem readDate_writeDate {date : Date} (real : date.exists? = true)
    (notBefore : firstYear ≤ date.year) (notBehind : date.year ≤ lastYear) {stop : Char}
    (stops : isDigit stop = false) (rest : List Char) :
    readDate (writeDate date ++ stop :: rest) = .ok (date, stop :: rest) := by
  obtain ⟨⟨someMonth, shortMonth⟩, someDay, shortDay⟩ := Date.bounds_of_exists real
  have solid : Text.isBlank '-' = false := by decide
  have noDigit : isDigit '-' = false := by decide
  unfold readDate writeDate
  simp only [List.append_assoc, List.cons_append]
  rw [readYear_writeYear notBefore notBehind noDigit, ok_bind, readMark_cons solid, ok_bind,
    readField_padded someMonth shortMonth (by decide) noDigit, ok_bind, readMark_cons solid,
    ok_bind, readField_padded someDay shortDay (by decide) stops, ok_bind]
  rfl

/-- A fraction of as many digits as it needs is read as its nanoseconds. -/
theorem readFraction_padded {places number : Nat} (some : 0 < places) (most : places ≤ 9)
    (fits : number < 10 ^ places) {stop : Char} (stops : isDigit stop = false) (rest : List Char) :
    readFraction ('.' :: (padded places number ++ stop :: rest)) =
      .ok (number * 10 ^ (9 - places), stop :: rest) := by
  have length := length_padded some fits
  have small : number ≤ greatestNumber := by
    have shorter : 10 ^ places ≤ 10 ^ 9 := Nat.pow_le_pow_right (by decide) most
    have wide : 10 ^ 9 ≤ greatestNumber := by decide
    omega
  have read : readNumber (Option.some 9) (padded places number ++ stop :: rest) =
      .ok (number, stop :: rest) :=
    readNumber_padded (by simpa [length] using most) small stops rest
  change (readNumber (Option.some 9) (padded places number ++ stop :: rest) >>= _) = _
  rw [read, ok_bind]
  dsimp only
  rw [List.length_append, Nat.add_sub_cancel, length,
    List.dropWhile_cons_of_neg (by simp [stops])]
  rfl

/-- A part of a second is read as it was written. -/
theorem readFraction_writeFraction {nanosecond : Nat} (less : nanosecond < secondNanoseconds)
    {stop : Char} (stops : isDigit stop = false) (noPoint : stop ≠ '.') (rest : List Char) :
    readFraction (writeFraction nanosecond ++ stop :: rest) = .ok (nanosecond, stop :: rest) := by
  unfold secondNanoseconds at less
  unfold writeFraction
  split
  case isTrue none =>
    rw [none, List.nil_append]
    unfold readFraction
    split
    case h_1 point => exact absurd (List.cons.inj point).1 noPoint
    case h_2 => rfl
  case isFalse =>
    split
    case isTrue thousandths =>
      rw [List.cons_append, readFraction_padded (by decide) (by decide) (by omega) stops]
      congr 2
      omega
    case isFalse =>
      split
      case isTrue millionths =>
        rw [List.cons_append, readFraction_padded (by decide) (by decide) (by omega) stops]
        congr 2
        omega
      case isFalse =>
        rw [List.cons_append, readFraction_padded (by decide) (by decide) (by omega) stops]
        congr 2
        omega

/-- What stands behind the second of a time starts with no digit. -/
theorem exists_behind_second (nanosecond : Nat) {stop : Char} (stops : isDigit stop = false)
    (rest : List Char) :
    ∃ first others, writeFraction nanosecond ++ stop :: rest = first :: others ∧
      isDigit first = false := by
  have point : isDigit '.' = false := by decide
  unfold writeFraction
  split
  case isTrue => exact ⟨stop, rest, rfl, stops⟩
  case isFalse =>
    split
    case isTrue => exact ⟨'.', _, rfl, point⟩
    case isFalse => split <;> exact ⟨'.', _, rfl, point⟩

/-- A time of a day is read from its text; only its last second may be a leap second. -/
theorem readTime_writeTime {second nanosecond : Nat} (inDay : second < 86400)
    (bounded : nanosecond < 2 * secondNanoseconds)
    (leap : secondNanoseconds ≤ nanosecond → second % 60 = 59) {stop : Char}
    (stops : isDigit stop = false) (noPoint : stop ≠ '.') (rest : List Char) :
    readTime (writeTime second nanosecond ++ stop :: rest) =
      .ok ((second, nanosecond), stop :: rest) := by
  have solid : Text.isBlank ':' = false := by decide
  have noDigit : isDigit ':' = false := by decide
  have positive : 0 < secondNanoseconds := by decide
  have shown : second % 60 + nanosecond / secondNanoseconds ≤ 60 := by
    unfold secondNanoseconds at bounded leap ⊢
    omega
  have fraction := readFraction_writeFraction (Nat.mod_lt nanosecond positive) stops noPoint rest
  obtain ⟨first, others, spelled, noDigitBehind⟩ :=
    exists_behind_second (nanosecond % secondNanoseconds) stops rest
  unfold readTime writeTime
  simp only [List.append_assoc, List.cons_append]
  rw [readField_padded (Nat.zero_le _) (by omega) (by decide) noDigit, ok_bind,
    readMark_cons solid, ok_bind,
    readField_padded (Nat.zero_le _) (by omega) (by decide) noDigit, ok_bind,
    readMark_cons solid, ok_bind, spelled,
    readField_padded (Nat.zero_le _) shown (by decide) noDigitBehind, ok_bind, ← spelled,
    fraction, ok_bind]
  simp only [pure, Except.pure]
  congr 3
  · unfold secondNanoseconds at bounded leap ⊢
    omega
  · unfold secondNanoseconds at bounded leap ⊢
    split <;> omega

namespace Instant

/-- The date of an instant lies in the years that have instants. -/
theorem date_bounds (instant : Instant) :
    firstYear ≤ instant.date.year ∧ instant.date.year ≤ lastYear := by
  obtain ⟨notBefore, notBehind, _⟩ := instant.bounded
  refine Date.year_ofDays_bounds ?_ ?_
  · unfold firstSecond daySeconds epochDays at *
    omega
  · unfold lastSecond daySeconds epochDays at *
    omega

/-- An instant is read back from what is written of it. -/
theorem read_write (instant : Instant) : read instant.write = .ok instant := by
  obtain ⟨notBefore, notBehind⟩ := instant.date_bounds
  obtain ⟨_, _, bounded, leap⟩ := instant.bounded
  have real : instant.date.exists? = true := Date.exists?_ofDays _
  have days : instant.date.toDays = instant.second / daySeconds + epochDays :=
    Date.toDays_ofDays _
  have inDay : instant.secondOfDay < 86400 := by
    unfold secondOfDay daySeconds
    omega
  have lastOfMinute : secondNanoseconds ≤ instant.nanosecond → instant.secondOfDay % 60 = 59 := by
    intro long
    have last := leap long
    unfold secondOfDay daySeconds
    omega
  have date := readDate_writeDate real notBefore notBehind (by decide : isDigit 'T' = false)
    (writeTime instant.secondOfDay instant.nanosecond ++ ['Z'])
  have time := readTime_writeTime inDay bounded lastOfMinute (by decide : isDigit 'Z' = false)
    (by decide) []
  have separator : ∀ rest, readSeparator ('T' :: rest) = .ok rest := fun _ => rfl
  have zone : readOffset (skipBlanks ['Z']) = .ok (0, []) := rfl
  have nothing : skipBlanks [] = [] := rfl
  have whole : of? ((instant.date.toDays - epochDays) * daySeconds + instant.secondOfDay - 0)
      instant.nanosecond = some instant := by
    have second : (instant.date.toDays - epochDays) * daySeconds + instant.secondOfDay - 0 =
        instant.second := by
      rw [days]
      unfold secondOfDay daySeconds
      omega
    rw [second]
    exact dif_pos instant.bounded
  unfold read write
  rw [String.toList_ofList, List.append_assoc, List.cons_append, date, ok_bind]
  dsimp only
  rw [separator, ok_bind, time, ok_bind]
  dsimp only
  rw [zone, ok_bind]
  dsimp only
  rw [if_neg (by simp [nothing]), if_neg (by simp [real]; omega), if_neg (by decide), whole]
  rfl

end Instant
end QuizFeed.Time
