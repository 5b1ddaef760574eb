/-
This file proves that a point of time of the years from 0 to 9999 is read, to the second,
as it was written. The day is found by counting in cycles of four hundred years. Which year
of its cycle a day belongs to is a quotient that never falls from one day to the next, so it
is enough to look at the first and the last day of each of the four hundred years; from
there on the calendar is linear. The rest is digits: a number is written in a fixed width
and read back by its width.
-/

import HandleFederation.Timestamp
import Mathlib.Tactic.IntervalCases
import Mathlib.Tactic.SplitIfs

namespace HandleFederation

open Text

/-! ### Numbers of a fixed width -/

theorem Text.readDigits_eq (digits : List Char) : readDigits digits = Nat.ofDigitChars 10 digits 0 := by
  rw [readDigits, Nat.ofDigitChars_eq_foldl]
  refine congrArg (fun step => List.foldl step 0 digits) (funext fun value => funext fun digit => ?_)
  rw [Nat.mul_comm value 10]
  rfl

/-- Digits in front of which there are zeros are read as the number that they stand for. -/
theorem Text.readDigits_paddedDigits (width value : Nat) : readDigits (paddedDigits width value) = value := by
  rw [readDigits_eq, paddedDigits, Nat.ofDigitChars_append, Nat.ofDigitChars_replicate_zero, Nat.mul_zero,
    Nat.ofDigitChars_ten_toDigits]

theorem Text.length_paddedDigits {width value : Nat} (positive : 0 < width) (fits : value < 10 ^ width) :
    (paddedDigits width value).length = width := by
  have isShort : (Nat.toDigits 10 value).length ≤ width :=
    (Nat.length_toDigits_le_iff (by decide) positive).mpr fits
  rw [paddedDigits, List.length_append, List.length_replicate]
  omega

theorem Text.isDigit_of_mem_paddedDigits {width value : Nat} {digit : Char}
    (member : digit ∈ paddedDigits width value) : digit.isDigit = true := by
  rcases List.mem_append.mp member with isZero | isDigit
  · rw [List.eq_of_mem_replicate isZero]
    decide
  · exact Nat.isDigit_of_mem_toDigits (by decide) (by decide) isDigit

namespace Timestamp

/-- A number that fits into a width is read back by that width. -/
theorem readCount_paddedDigits {width value : Nat} (positive : 0 < width) (fits : value < 10 ^ width)
    (rest : List Char) : readCount width (paddedDigits width value ++ rest) = some (value, rest) := by
  have length := length_paddedDigits positive fits
  have front : (paddedDigits width value ++ rest).take width = paddedDigits width value := by
    rw [List.take_append_of_le_length (Nat.le_of_eq length.symm), List.take_of_length_le (Nat.le_of_eq length)]
  have back : (paddedDigits width value ++ rest).drop width = rest := by
    rw [List.drop_append_of_le_length (Nat.le_of_eq length.symm), List.drop_of_length_le (Nat.le_of_eq length),
      List.nil_append]
  have allDigits : (paddedDigits width value).all Char.isDigit = true :=
    List.all_eq_true.mpr fun digit member => isDigit_of_mem_paddedDigits member
  simp only [readCount, front, back, length, allDigits, decide_true, Bool.and_self, if_true,
    readDigits_paddedDigits]

/-! ### Cycles of four hundred years -/

/-- The year to which a day of a cycle belongs. -/
def yearOfCycle (day : Nat) : Nat :=
  (day - day / 1460 + day / 36524 - day / 146096) / 365

/-- The first day of a year of a cycle. -/
def firstDay (year : Nat) : Nat :=
  365 * year + year / 4 - year / 100 + year / 400

theorem yearOfCycle_le_succ {day : Nat} (isDay : day + 1 < 146097) :
    yearOfCycle day ≤ yearOfCycle (day + 1) := by
  unfold yearOfCycle
  omega

/-- A later day of a cycle belongs to no earlier year. -/
theorem yearOfCycle_mono {day other : Nat} (le : day ≤ other) (isDay : other < 146097) :
    yearOfCycle day ≤ yearOfCycle other := by
  induction le with
  | refl => exact Nat.le_refl _
  | step _ inductionHypothesis =>
    exact Nat.le_trans (inductionHypothesis (Nat.lt_of_succ_lt isDay)) (yearOfCycle_le_succ isDay)

/-- The first and the last day of a year of a cycle belong to it. -/
theorem yearOfCycle_ends : ∀ year < 400, yearOfCycle (firstDay year) = year ∧
    yearOfCycle (firstDay (year + 1) - 1) = year := by
  have each : (List.range 400).all (fun year => yearOfCycle (firstDay year) == year &&
      yearOfCycle (firstDay (year + 1) - 1) == year) = true := by
    decide +kernel
  intro year isYear
  have ends := List.all_eq_true.mp each year (List.mem_range.mpr isYear)
  rwa [Bool.and_eq_true, beq_iff_eq, beq_iff_eq] at ends

/-- A day of a cycle belongs to the year whose first day is the last one not after it. -/
theorem firstDay_le_and_lt {day : Nat} (isDay : day < 146097) :
    yearOfCycle day < 400 ∧ firstDay (yearOfCycle day) ≤ day ∧ day < firstDay (yearOfCycle day + 1) := by
  have isYear : yearOfCycle day < 400 := by
    unfold yearOfCycle
    omega
  refine ⟨isYear, Nat.not_lt.mp fun isBefore => ?_, Nat.not_le.mp fun isAfter => ?_⟩
  · obtain ⟨former, isNext⟩ : ∃ former, yearOfCycle day = former + 1 := by
      refine Nat.exists_eq_add_one_of_ne_zero fun isFirst => ?_
      rw [isFirst] at isBefore
      exact absurd isBefore (Nat.not_lt_zero day)
    have isLast := (yearOfCycle_ends former (by omega)).2
    have isDayToo : firstDay (former + 1) - 1 < 146097 := by
      unfold firstDay
      omega
    rw [isNext] at isBefore
    have later := yearOfCycle_mono (Nat.le_sub_one_of_lt isBefore) isDayToo
    omega
  · have isNotLast : yearOfCycle day + 1 < 400 := by
      unfold firstDay at isAfter
      omega
    have isFirst := (yearOfCycle_ends (yearOfCycle day + 1) isNotLast).1
    have earlier := yearOfCycle_mono isAfter isDay
    omega

/-- A year of a cycle has a day more when it ends with a leap day. -/
theorem firstDay_succ (year : Nat) (isYear : year < 400) :
    firstDay (year + 1) = firstDay year +
      if (year + 1) % 4 = 0 ∧ ((year + 1) % 100 ≠ 0 ∨ (year + 1) % 400 = 0) then 366 else 365 := by
  unfold firstDay
  split <;> omega

/-! ### Days -/

/-- The day of a month, counted from March, in a year of a cycle, that also starts in March. -/
def Day.ofMarch (cycle : Int) (year dayOfYear march : Nat) : Day :=
  { year := year + cycle * 400 + if march < 10 then 0 else 1
    month := if march < 10 then march + 3 else march - 9
    day := dayOfYear - (153 * march + 2) / 5 + 1 }

/-- Every number is that of a day of a year of a cycle. -/
theorem Day.exists_ofNumber (number : Int) : ∃ (cycle : Int) (year dayOfYear : Nat), year < 400 ∧
    number + 719468 = cycle * 146097 + firstDay year + dayOfYear ∧
    firstDay year + dayOfYear < firstDay (year + 1) ∧
    Day.ofNumber number = .ofMarch cycle year dayOfYear ((5 * dayOfYear + 2) / 153) := by
  obtain ⟨day, isDay⟩ : ∃ day : Nat, (number + 719468) % 146097 = day := Int.eq_ofNat_of_zero_le (by omega)
  obtain ⟨isYear, isLate, isEarly⟩ := firstDay_le_and_lt (by omega : day < 146097)
  refine ⟨(number + 719468) / 146097, yearOfCycle day, day - firstDay (yearOfCycle day), isYear, by omega,
    by omega, ?_⟩
  have cycleDay : number + 719468 - (number + 719468) / 146097 * 146097 = day := by omega
  have cycleYear : ((day : Int) - day / 1460 + day / 36524 - day / 146096) / 365 = yearOfCycle day := by
    unfold yearOfCycle
    omega
  have dayOfYear : (day : Int) - (365 * yearOfCycle day + (yearOfCycle day : Int) / 4
      - (yearOfCycle day : Int) / 100) = (day - firstDay (yearOfCycle day) : Nat) := by
    unfold firstDay at isLate ⊢
    omega
  have cycle : (number + 719468).fdiv 146097 = (number + 719468) / 146097 :=
    Int.fdiv_eq_ediv_of_nonneg _ (by decide)
  have march : (5 * ((day - firstDay (yearOfCycle day) : Nat) : Int) + 2) / 153 =
      ((5 * (day - firstDay (yearOfCycle day)) + 2) / 153 : Nat) := by
    push_cast
    rfl
  have inMonth : (153 * ((5 * (day - firstDay (yearOfCycle day)) + 2) / 153) + 2) / 5 ≤
      day - firstDay (yearOfCycle day) := by
    omega
  unfold Day.ofNumber
  simp only [cycle, cycleDay, cycleYear, dayOfYear, march, Day.ofMarch, Day.mk.injEq]
  generalize (5 * (day - firstDay (yearOfCycle day)) + 2) / 153 = march at inMonth ⊢
  refine ⟨?_, ?_, by omega⟩ <;> split_ifs <;> omega

variable {year dayOfYear : Nat}

/-- A day of a year of a cycle has the number by which it was found. -/
theorem Day.number_ofMarch (cycle : Int) (isYear : year < 400)
    (isDay : firstDay year + dayOfYear < firstDay (year + 1)) :
    Day.number (.ofMarch cycle year dayOfYear ((5 * dayOfYear + 2) / 153)) + 719468 =
      cycle * 146097 + firstDay year + dayOfYear := by
  have isShort : dayOfYear < 366 := by
    have next := firstDay_succ year isYear
    split at next <;> omega
  have inYear : (5 * dayOfYear + 2) / 153 < 12 := by omega
  have inMonth : (153 * ((5 * dayOfYear + 2) / 153) + 2) / 5 ≤ dayOfYear := by omega
  generalize (5 * dayOfYear + 2) / 153 = march at inYear inMonth ⊢
  have sameCycle : ((year : Int) + cycle * 400).fdiv 400 = cycle := by
    rw [Int.fdiv_eq_ediv_of_nonneg _ (by decide)]
    omega
  unfold firstDay
  by_cases early : march < 10
  · have isLate : ¬ march + 3 ≤ 2 := by omega
    have sameMonth : ((march + 3 : Nat) + 9 : Int) % 12 = march := by omega
    simp only [Day.number, Day.ofMarch, if_pos early, if_neg isLate, Int.add_zero, sameCycle, sameMonth]
    omega
  · have isEarly : march - 9 ≤ 2 := by omega
    have sameMonth : ((march - 9 : Nat) + 9 : Int) % 12 = march := by omega
    simp only [Day.number, Day.ofMarch, if_neg early, if_pos isEarly, Int.add_sub_cancel, sameCycle, sameMonth]
    omega

/-- A day of a year of a cycle is one of the calendar. -/
theorem Day.isValid_ofMarch (cycle : Int) (isYear : year < 400)
    (isDay : firstDay year + dayOfYear < firstDay (year + 1)) :
    let day := Day.ofMarch cycle year dayOfYear ((5 * dayOfYear + 2) / 153)
    1 ≤ day.month ∧ day.month ≤ 12 ∧ 1 ≤ day.day ∧ day.day ≤ daysInMonth day.year day.month := by
  have length := firstDay_succ year isYear
  have inYear : (5 * dayOfYear + 2) / 153 < 12 := by
    split at length <;> omega
  have isLeap : isLeapYear (year + cycle * 400 + 1) = true ↔
      (year + 1) % 4 = 0 ∧ ((year + 1) % 100 ≠ 0 ∨ (year + 1) % 400 = 0) := by
    simp only [isLeapYear, Bool.and_eq_true, Bool.or_eq_true, beq_iff_eq, bne_iff_ne]
    omega
  dsimp only [Day.ofMarch]
  generalize isMarch : (5 * dayOfYear + 2) / 153 = march at inYear ⊢
  by_cases isFebruary : march = 11
  · subst isFebruary
    have inMonth : dayOfYear - 337 + 1 ≤ if isLeapYear (year + cycle * 400 + 1) then 29 else 28 := by
      rw [length] at isDay
      by_cases leap : isLeapYear (year + cycle * 400 + 1) = true
      · rw [if_pos (isLeap.mp leap)] at isDay
        rw [if_pos leap]
        omega
      · rw [if_neg fun ends => leap (isLeap.mpr ends)] at isDay
        rw [if_neg leap]
        omega
    exact ⟨by decide, by decide, Nat.le_add_left 1 _, inMonth⟩
  · refine ⟨?_, ?_, Nat.le_add_left 1 _, ?_⟩
    · split <;> omega
    · split <;> omega
    · interval_cases march <;> simp [daysInMonth] <;> omega

/-- What a number counts is a day of the calendar that has this number. -/
theorem Day.ofNumber_valid (number : Int) :
    let day := Day.ofNumber number
    Day.number day = number ∧ 1 ≤ day.month ∧ day.month ≤ 12 ∧ 1 ≤ day.day ∧
      day.day ≤ daysInMonth day.year day.month := by
  obtain ⟨cycle, year, dayOfYear, isYear, isNumber, isDay, isOfMarch⟩ := Day.exists_ofNumber number
  have sameNumber := Day.number_ofMarch cycle isYear isDay
  dsimp only
  rw [isOfMarch]
  exact ⟨by omega, Day.isValid_ofMarch cycle isYear isDay⟩

/-! ### Points of time -/

/-- A point of time lies in the years from 0 to 9999, which are written with four digits. -/
def IsInFourDigits (time : Timestamp) : Prop :=
  -62167219200 ≤ time.seconds ∧ time.seconds < 253402300800

theorem IsInFourDigits.year_mem {time : Timestamp} (isInFourDigits : time.IsInFourDigits) :
    0 ≤ (Day.ofNumber (time.seconds / 86400)).year ∧ (Day.ofNumber (time.seconds / 86400)).year ≤ 9999 := by
  obtain ⟨notBefore, before⟩ := isInFourDigits
  obtain ⟨cycle, year, dayOfYear, isYear, isNumber, isDay, isOfMarch⟩ :=
    Day.exists_ofNumber (time.seconds / 86400)
  rw [isOfMarch, Day.ofMarch]
  dsimp only
  by_cases isLast : year = 399
  · subst isLast
    have first : firstDay 399 = 145731 := by decide
    have next : firstDay (399 + 1) = 146097 := by decide
    split <;> omega
  · have ends : firstDay (year + 1) ≤ 145731 := by
      unfold firstDay
      omega
    split <;> omega

/-- The parts of a point of time are read as they were written. -/
theorem readLetters?_parts {year month day hour minute second : Nat} (isYear : year < 10000)
    (isMonth : 1 ≤ month ∧ month ≤ 12) (isDay : 1 ≤ day ∧ day ≤ daysInMonth year month) (isHour : hour < 24)
    (isMinute : minute < 60) (isSecond : second < 60) :
    readLetters? (paddedDigits 4 year ++ '-' :: (paddedDigits 2 month ++ '-' :: (paddedDigits 2 day ++ 'T' ::
        (paddedDigits 2 hour ++ ':' :: (paddedDigits 2 minute ++ ':' :: (paddedDigits 2 second ++ ['Z'])))))) =
      some ⟨Day.number ⟨year, month, day⟩ * 86400 + (hour * 3600 + minute * 60 + second : Nat), 0⟩ := by
  have isShort : daysInMonth year month ≤ 31 := by
    unfold daysInMonth
    split
    · split <;> omega
    · split <;> omega
  have readsYear := readCount_paddedDigits (by decide : 0 < 4) isYear
  have reads : ∀ {value : Nat}, value < 100 →
      ∀ rest, readCount 2 (paddedDigits 2 value ++ rest) = some (value, rest) :=
    fun fits => readCount_paddedDigits (by decide) fits
  have readsMonth := reads (by omega : month < 100)
  have readsDay := reads (by omega : day < 100)
  have readsHour := reads (by omega : hour < 100)
  have readsMinute := reads (by omega : minute < 100)
  have readsSecond := reads (by omega : second < 100)
  have noFraction : readFraction ['Z'] = some (0, ['Z']) := rfl
  have noOffset : readOffset ['Z'] = some (0, []) := rfl
  have dash : ∀ rest, readOneOf ['-'] ('-' :: rest) = some rest := fun _ => rfl
  have letterT : ∀ rest, readOneOf ['T', 't', ' '] ('T' :: rest) = some rest := fun _ => rfl
  have colon : ∀ rest, readOneOf [':'] (':' :: rest) = some rest := fun _ => rfl
  have notSixty : ¬ second = 60 := by omega
  have inCalendar : (decide (month < 1) || decide (12 < month) || decide (day < 1) ||
      decide (daysInMonth year month < day)) = false := by
    simp only [Bool.or_eq_false_iff, decide_eq_false_iff_not]
    omega
  have onClock : (decide (23 < hour) || decide (59 < minute) || decide (60 < second)) = false := by
    simp only [Bool.or_eq_false_iff, decide_eq_false_iff_not]
    omega
  unfold readLetters?
  rw [readsYear]
  dsimp only [Option.bind_eq_bind, Option.bind_some]
  rw [dash, Option.bind_some, readsMonth]
  dsimp only [Option.bind_some]
  rw [dash, Option.bind_some, readsDay]
  dsimp only [Option.bind_some]
  rw [letterT, Option.bind_some, readsHour]
  dsimp only [Option.bind_some]
  rw [colon, Option.bind_some, readsMinute]
  dsimp only [Option.bind_some]
  rw [colon, Option.bind_some, readsSecond]
  dsimp only [Option.bind_some]
  rw [noFraction]
  dsimp only [Option.bind_some]
  rw [noOffset]
  dsimp only [Option.bind_some]
  simp only [inCalendar, onClock, notSixty, if_false, Int.sub_zero, List.isEmpty_nil, Bool.not_true,
    Bool.false_eq_true, Nat.add_zero]

/-- A point of time is read, to the second, as it was written. -/
theorem ofText?_toWholeSecondsText {time : Timestamp} (isInFourDigits : time.IsInFourDigits)
    (notLeap : time.nanoseconds < perSecond) : ofText? time.toWholeSecondsText = some ⟨time.seconds, 0⟩ := by
  obtain ⟨notBefore, notAfter⟩ := isInFourDigits.year_mem
  obtain ⟨isNumber, firstMonth, lastMonth, firstDay, lastDay⟩ := Day.ofNumber_valid (time.seconds / 86400)
  have wholeDays : time.seconds.fdiv 86400 = time.seconds / 86400 := Int.fdiv_eq_ediv_of_nonneg _ (by decide)
  have ofDay : time.seconds.fmod 86400 = time.seconds % 86400 := Int.fmod_eq_emod_of_nonneg _ (by decide)
  obtain ⟨second, isSecond⟩ : ∃ second : Nat, time.seconds % 86400 = second :=
    Int.eq_ofNat_of_zero_le (by omega)
  generalize isDay : Day.ofNumber (time.seconds / 86400) = day at *
  obtain ⟨year, month, date⟩ := day
  dsimp only at *
  obtain ⟨positiveYear, rfl⟩ : ∃ positiveYear : Nat, year = positiveYear := Int.eq_ofNat_of_zero_le notBefore
  have inFour : (decide (0 ≤ (positiveYear : Int)) && decide ((positiveYear : Int) ≤ 9999)) = true := by
    rw [Bool.and_eq_true, decide_eq_true_iff, decide_eq_true_iff]
    exact ⟨notBefore, notAfter⟩
  have parts := readLetters?_parts (by omega : positiveYear < 10000) ⟨firstMonth, lastMonth⟩ ⟨firstDay, lastDay⟩
    (by omega : second / 3600 < 24) (by omega : second / 60 % 60 < 60) (by omega : second % 60 < 60)
  have written : time.writeSeconds.1 ++ ['Z'] =
      paddedDigits 4 positiveYear ++ '-' :: (paddedDigits 2 month ++ '-' :: (paddedDigits 2 date ++
        'T' :: (paddedDigits 2 (second / 3600) ++ ':' :: (paddedDigits 2 (second / 60 % 60) ++
          ':' :: (paddedDigits 2 (second % 60) ++ ['Z']))))) := by
    have noLeap : ¬ perSecond ≤ time.nanoseconds := Nat.not_le.mpr notLeap
    simp only [writeSeconds, wholeDays, ofDay, isSecond, isDay, writeYear, inFour, if_true,
      Int.toNat_natCast, noLeap, if_false, Nat.add_zero, List.append_assoc, List.cons_append]
  rw [ofText?, toWholeSecondsText, String.toList_ofList, written, parts, isNumber]
  refine congrArg some (congrArg (Timestamp.mk · 0) ?_)
  omega

end Timestamp

end HandleFederation
