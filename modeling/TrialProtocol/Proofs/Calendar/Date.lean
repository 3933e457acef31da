import TrialProtocol.Calendar.Instant

/-!
# Days and dates

Every day has a date, and from the date the day is counted again. Both directions go through the year
that begins in March: four hundred years are cut into centuries, a century into groups of four years,
such a group into years, and what is left is the day of the year (`exists_parts`). Only the last year of
a group has a leap day, and that of a century only if it is the fourth one.

* `exists_marchDate`: a day is a day of a year that begins in March.
* `daysBefore_dateOf`, `isValid_dateOf`: its date exists and leads back to the day.
* `toInstant?_ofInstant`: so an instant is found again from its date and time of day.
-/

namespace TrialProtocol.Calendar

/-! ## 1. Years that begin in March -/

/-- A day of four hundred years is the day `n` of a year that begins in March: year `s` of group `q` of
    century `c`. -/
structure AreParts (c q s n : Nat) : Prop where
  century : c < 4
  group : q < 25
  year : s < 4
  day : n ≤ 365
  leap : n = 365 → s = 3 ∧ (q = 24 → c = 3)

/-- **Every day of four hundred years has its parts.** -/
theorem exists_parts {d : Nat} (h : d < 146097) :
    ∃ c q s n, AreParts c q s n ∧ d = 36524 * c + 1461 * q + 365 * s + n := by
  let c := min (d / 36524) 3
  let r := d - 36524 * c
  let q := r / 1461
  let s := min (r % 1461 / 365) 3
  refine ⟨c, q, s, r % 1461 - 365 * s, ⟨?_, ?_, ?_, ?_, ?_⟩, ?_⟩ <;> omega

/-- The number of the year, without taking the day apart. -/
theorem AreParts.year_eq {c q s n d : Nat} (parts : AreParts c q s n)
    (h : d = 36524 * c + 1461 * q + 365 * s + n) :
    (d - d / 1460 + d / 36524 - d / 146096) / 365 = 100 * c + 4 * q + s := by
  obtain ⟨hc, hq, hs, hn, leap⟩ := parts
  have group : d / 1460 = 25 * c + q + (24 * c + q + 365 * s + n) / 1460 := by omega
  have century : d / 36524 = c + (if n = 365 ∧ q = 24 then 1 else 0) := by
    split <;> omega
  have era : d / 146096 = (if n = 365 ∧ q = 24 then 1 else 0) := by
    split <;> omega
  rw [group, century, era]
  split <;> omega

/-- The month of a day in a year that begins in March. -/
def monthOf (n : Nat) : Nat :=
  let m := (5 * n + 2) / 153
  if m < 10 then m + 3 else m - 9

/-- The day of its month. -/
def dayOf (n : Nat) : Nat :=
  n - (153 * ((5 * n + 2) / 153) + 2) / 5 + 1

/-- The date of a day in a year that begins in March. -/
def marchDate (year : Int) (n : Nat) : Date where
  year := year + (if monthOf n ≤ 2 then 1 else 0)
  month := monthOf n
  day := dayOf n

/-- **A day is a day of a year that begins in March**, which has a leap day if the next one does. -/
theorem exists_marchDate (days : Int) : ∃ (year : Int) (n : Nat), dateOf days = marchDate year n ∧
    n ≤ 365 ∧ (n = 365 → isLeapYear (year + 1) = true) ∧
    days = year / 400 * 146097 +
      (year % 400 * 365 + year % 400 / 4 - year % 400 / 100 + n) - epochDays := by
  have rest : 0 ≤ (days + epochDays) % 146097 ∧ (days + epochDays) % 146097 < 146097 := by omega
  have whole : days + epochDays =
      (days + epochDays) / 146097 * 146097 + (days + epochDays) % 146097 := by omega
  unfold dateOf
  dsimp only
  generalize (days + epochDays) / 146097 = era at *
  generalize (days + epochDays) % 146097 = d at *
  obtain ⟨c, q, s, n, parts, hd⟩ := exists_parts (d := d.toNat) (by omega)
  rw [parts.year_eq hd]
  obtain ⟨hc, hq, hs, hn, leap⟩ := parts
  have groups : (100 * c + 4 * q + s) / 4 = 25 * c + q := by omega
  have centuries : (100 * c + 4 * q + s) / 100 = c := by omega
  have day : d.toNat - (365 * (100 * c + 4 * q + s) + (100 * c + 4 * q + s) / 4 -
      (100 * c + 4 * q + s) / 100) = n := by omega
  rw [day]
  refine ⟨(100 * c + 4 * q + s : Nat) + era * 400, n, rfl, hn, fun full => ?_, ?_⟩
  · obtain ⟨rfl, last⟩ := leap full
    simp only [isLeapYear, Bool.and_eq_true, Bool.or_eq_true, beq_iff_eq, bne_iff_ne]
    omega
  · have inEra : ((100 * c + 4 * q + s : Nat) + era * 400) % 400 = (100 * c + 4 * q + s : Nat) := by
      omega
    have ofEra : ((100 * c + 4 * q + s : Nat) + era * 400) / 400 = era := by omega
    rw [inEra, ofEra]
    omega

/-- A day of a year is in one of the months, … -/
theorem monthOf_mem (n : Nat) (h : n < 366) : 1 ≤ monthOf n ∧ monthOf n ≤ 12 ∧ 1 ≤ dayOf n := by
  unfold monthOf dayOf
  dsimp only
  split <;> omega

/-- … and not behind its end. -/
theorem dayOf_le (n : Nat) (h : n < 366) (leap : Bool) (full : n = 365 → leap = true) :
    dayOf n ≤ if monthOf n = 2 then (if leap then 29 else 28)
      else if monthOf n = 4 ∨ monthOf n = 6 ∨ monthOf n = 9 ∨ monthOf n = 11 then 30 else 31 := by
  unfold monthOf dayOf
  dsimp only
  -- The count from March to November needs no year; behind it stand January and February.
  by_cases early : (5 * n + 2) / 153 < 10
  · rw [if_pos early, if_neg (by omega)]
    split <;> omega
  rw [if_neg early]
  by_cases february : (5 * n + 2) / 153 - 9 = 2
  · rw [if_pos february]
    cases leap with
    | true => exact (show n - (153 * ((5 * n + 2) / 153) + 2) / 5 + 1 ≤ 29 by omega)
    | false =>
      have short : n ≠ 365 := fun h => nomatch full h
      exact (show n - (153 * ((5 * n + 2) / 153) + 2) / 5 + 1 ≤ 28 by omega)
  · rw [if_neg february, if_neg (by omega)]
    omega

/-- From its month and the day in it the day of the year is counted again. -/
theorem dayOfYear_eq (n : Nat) (h : n < 366) :
    (153 * ((monthOf n + 9) % 12) + 2) / 5 + dayOf n - 1 = n := by
  have shifted : (monthOf n + 9) % 12 = (5 * n + 2) / 153 := by
    unfold monthOf
    dsimp only
    split <;> omega
  rw [shifted, dayOf]
  omega

/-! ## 2. There and back -/

/-- **The days to a date are those that it was found from.** -/
theorem daysBefore_dateOf (days : Int) : daysBefore (dateOf days) = days := by
  obtain ⟨year, n, date, hn, -, count⟩ := exists_marchDate days
  have march : (if (marchDate year n).month ≤ 2 then (marchDate year n).year - 1
      else (marchDate year n).year) = year := by
    change (if monthOf n ≤ 2 then year + (if monthOf n ≤ 2 then 1 else 0) - 1
      else year + (if monthOf n ≤ 2 then 1 else 0)) = year
    split <;> omega
  have day : (153 * (((marchDate year n).month + 9) % 12) + 2) / 5 + (marchDate year n).day - 1 = n :=
    dayOfYear_eq n (by omega)
  rw [date]
  simp only [daysBefore, march, day]
  exact count.symm

example : dateOf 11016 = ⟨2000, 2, 29⟩ ∧ daysBefore ⟨2000, 2, 29⟩ = 11016 := by decide

/-- **The date of a day exists**, as far as the years go. -/
theorem isValid_dateOf {days : Int} (low : minYear ≤ (dateOf days).year)
    (high : (dateOf days).year ≤ maxYear) : (dateOf days).isValid = true := by
  obtain ⟨year, n, date, hn, leap, -⟩ := exists_marchDate days
  obtain ⟨first, last, day⟩ := monthOf_mem n (by omega)
  have within := dayOf_le n (by omega) (isLeapYear (year + 1)) leap
  rw [date] at low high ⊢
  simp only [Date.isValid, Bool.and_eq_true, decide_eq_true_eq]
  refine ⟨⟨⟨⟨⟨low, high⟩, first⟩, last⟩, day⟩, ?_⟩
  unfold daysInMonth
  change dayOf n ≤ if monthOf n = 2 then
    (if isLeapYear (year + (if monthOf n ≤ 2 then 1 else 0)) then 29 else 28) else _
  by_cases february : monthOf n = 2
  · have next : (if monthOf n ≤ 2 then (1 : Int) else 0) = 1 := if_pos (by omega)
    rw [if_pos february] at within ⊢
    rwa [next]
  · rw [if_neg february] at within ⊢
    exact within

/-! ## 3. Instants -/

/-- An instant of which no second but the last of a minute is followed by a leap second. -/
def IsRegular (t : Instant) : Prop :=
  t.isLeap = true → t.seconds % 60 = 59

/-- The year of an instant. -/
def yearOf (t : Instant) : Int :=
  (DateTime.ofInstant t).date.year

/-- **An instant is found again from its date and time of day.** -/
theorem toInstant?_ofInstant {t : Instant} (regular : IsRegular t) (low : minYear ≤ yearOf t)
    (high : yearOf t ≤ maxYear) : (DateTime.ofInstant t).toInstant? 0 = some t := by
  have valid : (dateOf (t.seconds / 86400)).isValid = true := isValid_dateOf low high
  have days := daysBefore_dateOf (t.seconds / 86400)
  obtain ⟨seconds, isLeap⟩ := t
  have ofDay : ((seconds % 86400).toNat : Int) = seconds % 86400 := by omega
  have bound : (seconds % 86400).toNat < 86400 := by omega
  have last : isLeap = true → (seconds % 86400).toNat % 60 = 59 := by
    intro leap
    have minute : seconds % 60 = 59 := regular leap
    omega
  unfold DateTime.ofInstant DateTime.toInstant?
  dsimp only at valid days ⊢
  generalize (seconds % 86400).toNat = o at *
  -- the leap second is cut off again, and told from the others by its number
  have second : o % 60 + (if isLeap then 1 else 0) ≤ 60 ∧
      min (o % 60 + if isLeap then 1 else 0) 59 = o % 60 ∧
      (o % 60 + (if isLeap then 1 else 0) == 60) = isLeap := by
    cases isLeap with
    | true =>
      rw [if_pos rfl, last rfl]
      decide
    | false =>
      rw [if_neg (by simp), beq_eq_false_iff_ne]
      omega
  obtain ⟨le, cut, told⟩ := second
  rw [if_pos ⟨valid, by omega, by omega, le⟩, days, cut, told]
  have whole : seconds / 86400 * 86400 +
      ((o / 3600 * 3600 + o / 60 % 60 * 60 + o % 60 : Nat) : Int) - 0 = seconds := by omega
  rw [whole, if_pos valid]

end TrialProtocol.Calendar
