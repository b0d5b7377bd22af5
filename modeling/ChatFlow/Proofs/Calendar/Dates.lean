import ChatFlow.Calendar.Moment

/-!
# Dates of days

A day has one date, and the date gives the day back. The dates of the calendar are valid, and a valid date lies in
the calendar. Years are counted from March, in periods of 400 years; the year of a day is found by taking out the
leap days before it, which is checked for each of the 400 years.

* `Date.year_spec`: which year of its period a day lies in.
* `Date.toDay_ofDay`: the date of a day gives the day back.
* `Date.isValid_ofDay`, `Date.toDay_bounds`: dates of the calendar are those that are valid.
-/

namespace ChatFlow

namespace Date

/-! ## Years of a period -/

/-- A day of a period without the leap days before it. -/
def plainDay (day : Int) : Int := day - day / 1460 + day / 36524 - day / 146096

/-- The first day of a year of a period. -/
def yearStart (year : Int) : Int := 365 * year + year / 4 - year / 100

theorem plainDay_mono {day later : Int} (h : day ≤ later) : plainDay day ≤ plainDay later := by
  unfold plainDay
  omega

/-- Without leap days, a year begins with its number of days, and the day before lies in the year before. -/
theorem plainDay_yearStart : ∀ year : Fin 400,
    365 * (year : Int) ≤ plainDay (yearStart year) ∧
      (0 < (year : Int) → plainDay (yearStart year - 1) < 365 * year) := by
  decide +kernel

/-- The year that a day of a period lies in begins at it or before and ends behind it. The last year of a period is
one day longer than the others say. -/
theorem year_spec {day year : Int} (hfirst : 0 ≤ day) (hlast : day < 146097) (hyear : year = plainDay day / 365) :
    (0 ≤ year ∧ year < 400) ∧ yearStart year ≤ day ∧ (day < yearStart (year + 1) ∨ year = 399) := by
  have hplain : 0 ≤ plainDay day ∧ plainDay day < 146000 := by
    unfold plainDay
    omega
  have hbounds : 0 ≤ year ∧ year < 400 := by omega
  refine ⟨hbounds, ?_, ?_⟩
  · refine Int.not_lt.mp ?_
    intro hless
    -- the day would be one of a year before
    have hpos : 0 < year := by
      unfold yearStart at hless
      omega
    have hcheck := (plainDay_yearStart ⟨year.toNat, by omega⟩).2
    rw [Int.toNat_of_nonneg hbounds.1] at hcheck
    have hmono := plainDay_mono (Int.le_sub_one_of_lt hless)
    have hbefore := hcheck hpos
    omega
  · rcases Int.lt_or_le year 399 with hless | hmost
    · refine .inl (Int.not_le.mp ?_)
      intro hle
      -- the day would be one of the next year or behind it
      have hcheck := (plainDay_yearStart ⟨(year + 1).toNat, by omega⟩).1
      rw [Int.toNat_of_nonneg (by omega)] at hcheck
      have hmono := plainDay_mono hle
      omega
    · exact .inr (by omega)

/-! ## Days of a year -/

/-- The date of a day of a year, where the year begins in March. -/
def ofYearDay (year rest : Int) : Date :=
  let monthFromMarch := (5 * rest + 2) / 153
  let day := (rest - (153 * monthFromMarch + 2) / 5 + 1).toNat
  let month := if monthFromMarch < 10 then (monthFromMarch + 3).toNat else (monthFromMarch - 9).toNat
  ⟨year + (if month ≤ 2 then 1 else 0), month, day⟩

/-- What the date of a day of a year is like, whatever the year. -/
theorem ofYearDay_check : ∀ rest : Fin 366,
    let d := ofYearDay 0 (rest : Nat)
    (153 * (((d.month : Int) + 9) % 12) + 2) / 5 + d.day - 1 = (rest : Nat) ∧
      (1 ≤ d.month ∧ d.month ≤ 12) ∧ 1 ≤ d.day ∧
      (d.month ≤ 2 ↔ 306 ≤ (rest : Nat)) ∧
      (d.day ≤ daysInMonth 1 d.month ∨ ((rest : Nat) = 365 ∧ d.month = 2 ∧ d.day = 29)) := by
  decide +kernel

/-- The days of a period, its years and the day of the year. -/
structure Parts (day period year rest : Int) : Prop where
  year_bounds : 0 ≤ year ∧ year < 400
  rest_bounds : 0 ≤ rest ∧ rest ≤ 365
  sum : day + 719468 = period * 146097 + yearStart year + rest
  leap : rest = 365 → isLeapYear (period * 400 + year + 1) = true
  date : ofDay day = ofYearDay (period * 400 + year) rest

theorem exists_parts (day : Int) : ∃ period year rest, Parts day period year rest := by
  have hshifted := Int.mul_ediv_add_emod (day + 719468) 146097
  have hfirst := Int.emod_nonneg (day + 719468) (by decide : (146097 : Int) ≠ 0)
  have hlast := Int.emod_lt_of_pos (day + 719468) (by decide : (0 : Int) < 146097)
  obtain ⟨hyear, hstart, hnext⟩ := year_spec hfirst hlast rfl
  have hdate : ofDay day = ofYearDay ((day + 719468) / 146097 * 400 + plainDay ((day + 719468) % 146097) / 365)
      ((day + 719468) % 146097 - yearStart (plainDay ((day + 719468) % 146097) / 365)) := rfl
  generalize (day + 719468) / 146097 = period at *
  generalize (day + 719468) % 146097 = dayOfPeriod at *
  generalize plainDay dayOfPeriod / 365 = year at *
  have hrest : dayOfPeriod - yearStart year ≤ 365 ∧
      (dayOfPeriod - yearStart year = 365 → (year + 1) % 4 = 0 ∧ ((year + 1) % 100 ≠ 0 ∨ year = 399)) := by
    -- a year is longer than others if a fourth year begins behind it, and no century
    have hfourth : (year + 1) / 4 = year / 4 ∨ ((year + 1) % 4 = 0 ∧ (year + 1) / 4 = year / 4 + 1) := by omega
    have hcentury : ((year + 1) % 100 ≠ 0 ∧ (year + 1) / 100 = year / 100) ∨
        (year + 1) / 100 = year / 100 + 1 := by omega
    unfold yearStart at *
    omega
  refine ⟨period, year, dayOfPeriod - yearStart year, hyear, ⟨by omega, hrest.1⟩, by omega, ?_, hdate⟩
  intro hleap
  obtain ⟨hfour, hcentury⟩ := hrest.2 hleap
  have hyears : (period * 400 + year + 1) % 4 = 0 ∧
      ((period * 400 + year + 1) % 100 ≠ 0 ∨ (period * 400 + year + 1) % 400 = 0) := by
    omega
  simpa [isLeapYear] using hyears

/-- The date of a day of a year, as a number of its day. -/
theorem toDay_ofYearDay {period year rest : Int} (hyear : 0 ≤ year ∧ year < 400) (hrest : 0 ≤ rest ∧ rest ≤ 365) :
    (ofYearDay (period * 400 + year) rest).toDay = period * 146097 + yearStart year + rest - 719468 := by
  obtain ⟨k, rfl⟩ := Int.eq_ofNat_of_zero_le hrest.1
  obtain ⟨hday, -, -, -, -⟩ := ofYearDay_check ⟨k, by omega⟩
  -- the month tells whether the year has changed since March
  have hyears : (if (ofYearDay (period * 400 + year) k).month ≤ 2 then (ofYearDay (period * 400 + year) k).year - 1
      else (ofYearDay (period * 400 + year) k).year) = period * 400 + year := by
    show (if (ofYearDay (period * 400 + year) k).month ≤ 2 then
        period * 400 + year + (if (ofYearDay (period * 400 + year) k).month ≤ 2 then 1 else 0) - 1
      else period * 400 + year + (if (ofYearDay (period * 400 + year) k).month ≤ 2 then 1 else 0)) = _
    split
    · omega
    · omega
  have hperiod : (period * 400 + year) / 400 = period := by omega
  have hinPeriod : (period * 400 + year) % 400 = year := by omega
  have hmonth : (ofYearDay (period * 400 + year) k).month = (ofYearDay 0 k).month := rfl
  have hdays : (ofYearDay (period * 400 + year) k).day = (ofYearDay 0 k).day := rfl
  simp only [hmonth] at hyears
  simp only [toDay, hmonth, hdays, hyears, hperiod, hinPeriod]
  unfold yearStart
  simp only at hday
  omega

/-- The date of a day gives the day back. -/
theorem toDay_ofDay (day : Int) : (ofDay day).toDay = day := by
  obtain ⟨period, year, rest, hparts⟩ := exists_parts day
  have hsum := hparts.sum
  rw [hparts.date, toDay_ofYearDay hparts.year_bounds hparts.rest_bounds]
  omega

/-! ## The calendar -/

/-- A month is never shorter than in a year without a leap day. -/
theorem daysInMonth_least (year : Int) (month : Nat) : daysInMonth 1 month ≤ daysInMonth year month := by
  have hodd : isLeapYear 1 = false := rfl
  unfold daysInMonth
  rcases Decidable.em (month = 2) with hfebruary | hother
  · rw [if_pos hfebruary, if_pos hfebruary, hodd]
    show 28 ≤ _
    split
    · exact Nat.le_succ 28
    · exact Nat.le_refl 28
  · refine Nat.le_of_eq ?_
    rw [if_neg hother, if_neg hother]

theorem daysInMonth_le (year : Int) (month : Nat) : daysInMonth year month ≤ 31 := by
  unfold daysInMonth
  split
  · split
    · decide
    · decide
  · split
    · decide
    · decide

/-- From the first day of the year 1 to the last one of the year 9999, dates are valid. -/
theorem isValid_ofDay {day : Int} (hfirst : -719162 ≤ day) (hlast : day ≤ 2932896) : (ofDay day).isValid = true := by
  obtain ⟨period, year, rest, hparts⟩ := exists_parts day
  obtain ⟨k, rfl⟩ := Int.eq_ofNat_of_zero_le hparts.rest_bounds.1
  have hrest := hparts.rest_bounds.2
  have hyear := hparts.year_bounds
  have hsum := hparts.sum
  have hleap := hparts.leap
  obtain ⟨-, hmonth, hday, hturn, hmost⟩ := ofYearDay_check ⟨k, by omega⟩
  -- the month and the day do not depend on the year
  have hdate : ofDay day =
      ⟨period * 400 + year + (if (ofYearDay 0 k).month ≤ 2 then 1 else 0), (ofYearDay 0 k).month,
        (ofYearDay 0 k).day⟩ := hparts.date
  simp only at hmonth hday hturn hmost
  generalize (ofYearDay 0 (k : Int)).month = month at *
  generalize (ofYearDay 0 (k : Int)).day = dayOfMonth at *
  have hyears : 1 ≤ period * 400 + year + (if month ≤ 2 then 1 else 0) ∧
      period * 400 + year + (if month ≤ 2 then 1 else 0) ≤ 9999 := by
    unfold yearStart at hsum
    split
    · omega
    · omega
  have hdays : dayOfMonth ≤ daysInMonth (period * 400 + year + (if month ≤ 2 then 1 else 0)) month := by
    rcases hmost with hcommon | ⟨hlastDay, hfebruary, hleapDay⟩
    · exact Nat.le_trans hcommon (daysInMonth_least _ month)
    · refine Nat.le_of_eq ?_
      rw [hfebruary, hleapDay, if_pos (by decide), daysInMonth, if_pos rfl, if_pos (hleap (by omega))]
  rw [hdate, isValid]
  simp only [Bool.and_eq_true, decide_eq_true_eq]
  exact ⟨⟨⟨⟨⟨hyears.1, hyears.2⟩, hmonth.1⟩, hmonth.2⟩, hday⟩, hdays⟩

/-- The days of valid dates. -/
theorem toDay_bounds {d : Date} (h : d.isValid = true) : -719162 ≤ d.toDay ∧ d.toDay ≤ 2932896 := by
  obtain ⟨year, month, day⟩ := d
  simp only [isValid, Bool.and_eq_true, decide_eq_true_eq] at h
  obtain ⟨⟨⟨⟨⟨hyear₀, hyear₁⟩, hmonth₀⟩, hmonth₁⟩, hday₀⟩, hday₁⟩ := h
  have hday : day ≤ 31 := Nat.le_trans hday₁ (daysInMonth_le year month)
  -- the months before March come last in their year
  have hlate : month ≤ 2 → 306 ≤ (153 * (((month : Int) + 9) % 12) + 2) / 5 := by omega
  have hearly : 2 < month → (153 * (((month : Int) + 9) % 12) + 2) / 5 ≤ 275 := by omega
  have hmost : (153 * (((month : Int) + 9) % 12) + 2) / 5 ≤ 337 := by omega
  have hfirst : 0 ≤ (153 * (((month : Int) + 9) % 12) + 2) / 5 := by omega
  simp only [toDay]
  generalize (153 * (((month : Int) + 9) % 12) + 2) / 5 = before at *
  split
  · next hmonth =>
      have := hlate hmonth
      omega
  · next hmonth =>
      have := hearly (Nat.not_le.mp hmonth)
      omega

end Date

end ChatFlow
