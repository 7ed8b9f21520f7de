import Mathlib.Tactic.SplitIfs
import ControlPlane.Time.Instant

/-!
# The calendar

Every day has one date of the Gregorian calendar, and the day of that date is the day it was. A day
is counted in eras of 400 years, the centuries and four-year cycles of an era, and the years of a
cycle, all of which begin in March, so that the days that are one too many for the division come last.

* `dayOfCivil_civilOfDay`: the day of the date of a day.
* `isValid_civilOfDay`: the date of a day is one that the calendar has.
-/

namespace ControlPlane

/-- A day is the `r`-th day of the `y`-th year of the `k`-th cycle of the `c`-th century of an era. -/
structure Reckoned (day era c k y r : Int) : Prop where
  eq : day + 719468 = 146097 * era + 36524 * c + 1461 * k + 365 * y + r
  century : 0 ≤ c ∧ c ≤ 3
  cycle : 0 ≤ k ∧ k ≤ 24
  year : 0 ≤ y ∧ y ≤ 3
  dayOfYear : 0 ≤ r ∧ (r < 365 ∨ r = 365 ∧ y = 3 ∧ (k < 24 ∨ c = 3))

theorem exists_reckoned (day : Int) : ∃ era c k y r, Reckoned day era c k y r := by
  obtain ⟨n, hn⟩ : ∃ n, n = (day + 719468) % 146097 := ⟨_, rfl⟩
  obtain ⟨c, hc⟩ : ∃ c, c = min (n / 36524) 3 := ⟨_, rfl⟩
  obtain ⟨k, hk⟩ : ∃ k, k = (n - 36524 * c) / 1461 := ⟨_, rfl⟩
  obtain ⟨y, hy⟩ : ∃ y, y = min ((n - 36524 * c - 1461 * k) / 365) 3 := ⟨_, rfl⟩
  refine ⟨(day + 719468) / 146097, c, k, y, n - 36524 * c - 1461 * k - 365 * y, ?_, ?_, ?_, ?_, ?_⟩
    <;> omega

namespace Reckoned

variable {day era c k y r : Int}

/-- The correction for the leap days that have passed finds the year of the era. -/
theorem yearOfEra {n : Int} (h : Reckoned day era c k y r)
    (hn : n = 36524 * c + 1461 * k + 365 * y + r) :
    (n - n / 1460 + n / 36524 - n / 146096) / 365 = 100 * c + 4 * k + y := by
  obtain ⟨-, hc, hk, hy, hr⟩ := h
  have hcentury : n / 36524 - n / 146096 = c := by
    obtain hlast | hlt : n = 146096 ∨ n < 146096 := by omega
    · omega
    · have : n / 146096 = 0 := by omega
      have : n / 36524 = c := by omega
      omega
  have hcycle : n / 1460 = 25 * c + k + (24 * c + k + 365 * y + r) / 1460 := by omega
  -- the days since the last leap day are one too many at most, and only late in the last year
  have hlate : (24 * c + k + 365 * y + r) / 1460 = 0 ∨
      (24 * c + k + 365 * y + r) / 1460 = 1 ∧ y = 3 ∧ 200 ≤ r := by omega
  omega

/-- The date of a day. Months are counted from March, in fifths of 153 days. -/
theorem civilOfDay_eq (h : Reckoned day era c k y r) :
    civilOfDay day =
      if (5 * r + 2) / 153 < 10 then
        ⟨400 * era + 100 * c + 4 * k + y, ((5 * r + 2) / 153 + 3).toNat,
          (r - (153 * ((5 * r + 2) / 153) + 2) / 5 + 1).toNat⟩
      else
        ⟨400 * era + 100 * c + 4 * k + y + 1, ((5 * r + 2) / 153 - 9).toNat,
          (r - (153 * ((5 * r + 2) / 153) + 2) / 5 + 1).toNat⟩ := by
  obtain ⟨n, hn⟩ : ∃ n, n = 36524 * c + 1461 * k + 365 * y + r := ⟨_, rfl⟩
  obtain ⟨heq, hc, hk, hy, hr⟩ := id h
  have hera : (day + 719468) / 146097 = era := by omega
  have hday : (day + 719468) % 146097 = n := by omega
  have hrest : n - (365 * (100 * c + 4 * k + y) + (100 * c + 4 * k + y) / 4 -
      (100 * c + 4 * k + y) / 100) = r := by
    have : (100 * c + 4 * k + y) / 4 = 25 * c + k := by omega
    have : (100 * c + 4 * k + y) / 100 = c := by omega
    omega
  have hsum : 100 * c + 4 * k + y + era * 400 = 400 * era + 100 * c + 4 * k + y := by omega
  simp only [civilOfDay, hera, hday, h.yearOfEra hn, hrest, hsum]

end Reckoned

/-- The day of the date of a day is the day. -/
theorem dayOfCivil_civilOfDay (day : Int) : dayOfCivil (civilOfDay day) = day := by
  obtain ⟨era, c, k, y, r, h⟩ := exists_reckoned day
  rw [h.civilOfDay_eq]
  obtain ⟨heq, hc, hk, hy, hr⟩ := h
  obtain ⟨m, hm⟩ : ∃ m, m = (5 * r + 2) / 153 := ⟨_, rfl⟩
  have hmonth : 0 ≤ m ∧ m ≤ 11 := by omega
  have hday : 0 ≤ r - (153 * m + 2) / 5 := by omega
  -- the leap days before the year
  have h4 : (400 * era + 100 * c + 4 * k + y) / 4 = 100 * era + 25 * c + k := by omega
  have h100 : (400 * era + 100 * c + 4 * k + y) / 100 = 4 * era + c := by omega
  have h400 : (400 * era + 100 * c + 4 * k + y) / 400 = era := by omega
  rw [← hm]
  split
  · have hn : ((m + 3).toNat : Int) = m + 3 := Int.toNat_of_nonneg (by omega)
    have hlate : ¬ (m + 3).toNat ≤ 2 := by omega
    simp only [dayOfCivil, if_neg hlate, h4, h100, h400, hn]
    omega
  · have hn : ((m - 9).toNat : Int) = m - 9 := Int.toNat_of_nonneg (by omega)
    have hearly : (m - 9).toNat ≤ 2 := by omega
    simp only [dayOfCivil, if_pos hearly, Int.add_sub_cancel, h4, h100, h400, hn]
    omega

/-- The date of a day is one that the calendar has. -/
theorem isValid_civilOfDay (day : Int) : (civilOfDay day).isValid = true := by
  obtain ⟨era, c, k, y, r, h⟩ := exists_reckoned day
  rw [h.civilOfDay_eq]
  obtain ⟨heq, hc, hk, hy, hr⟩ := h
  simp only [CivilDate.isValid, Bool.and_eq_true, decide_eq_true_eq]
  split
  · simp only [daysInMonth]
    split_ifs <;> omega
  · -- a day too many in February is the last of its cycle, and so of a leap year
    have hcommon : ¬ isLeapYear (400 * era + 100 * c + 4 * k + y + 1) = true → r < 365 := by
      simp only [isLeapYear, Bool.and_eq_true, Bool.or_eq_true, decide_eq_true_eq, ne_eq]
      omega
    simp only [daysInMonth]
    split_ifs with hmonth hleap
    · omega
    · have := hcommon hleap
      omega
    · omega
    · omega

end ControlPlane
