import EdgeNode.Calendar
import Mathlib.Data.List.Basic
import Mathlib.Data.Nat.Basic
/-!
# The dates of days

Dates are counted from March on, so that a leap day is the last day of its year.  Years come in eras
of 400 years, which all have the same number of days.  From the 1st of January 1970 on, the date of
a day is a date of the calendar, and its day is the day it was computed from.
-/

namespace EdgeNode.Calendar

/-- The year, from March on, that a day of an era of 400 years lies in. -/
def yearOfEra (day : Nat) : Nat :=
  (day - day / 1460 + day / 36524 - day / 146096) / 365

/-- The days of an era before a year of it. -/
def daysBefore (year : Nat) : Nat :=
  365 * year + year / 4 - year / 100

/-- A day lies in its year, and in a year of 365 days not on the last day of a longer one. -/
lemma yearOfEra_spec {day : Nat} (h : day < 146097) :
    yearOfEra day ≤ 399 ∧ daysBefore (yearOfEra day) ≤ day ∧
      day ≤ daysBefore (yearOfEra day) + 365 ∧
      (day = daysBefore (yearOfEra day) + 365 →
        (yearOfEra day + 1) % 4 = 0 ∧
          ((yearOfEra day + 1) % 100 ≠ 0 ∨ yearOfEra day + 1 = 400)) := by
  unfold yearOfEra daysBefore
  by_cases hlast : day = 146096
  · subst hlast
    decide
  · -- the century, the group of four years in it and the day of the group
    obtain ⟨c, q, s, hday, hc, hq, hs, hqs⟩ : ∃ c q s, day = 36524 * c + 1461 * q + s ∧ c ≤ 3 ∧
        q ≤ 24 ∧ s ≤ 1460 ∧ (q = 24 → s ≤ 1459) :=
      ⟨day / 36524, day % 36524 / 1461, day % 36524 % 1461, by omega, by omega, by omega, by omega,
        by omega⟩
    have hera : day / 146096 = 0 := by omega
    have hcentury : day / 36524 = c := by omega
    obtain ⟨e, he, hgroup⟩ : ∃ e, (e = 0 ∧ 24 * c + q + s < 1460 ∨ e = 1 ∧ 1460 ≤ 24 * c + q + s) ∧
        day / 1460 = 25 * c + q + e := by
      by_cases h : 24 * c + q + s < 1460
      · exact ⟨0, .inl ⟨rfl, h⟩, by omega⟩
      · exact ⟨1, .inr ⟨rfl, by omega⟩, by omega⟩
    obtain ⟨k, hk, hyear⟩ : ∃ k, (k ≤ 3 ∧ 365 * k ≤ s ∧ s ≤ 365 * k + 365 ∧
        (s = 365 * k + 365 → k = 3)) ∧
        (day - day / 1460 + day / 36524 - day / 146096) / 365 = 100 * c + 4 * q + k := by
      refine ⟨(s - e) / 365, by omega, ?_⟩
      rw [hgroup, hcentury, hera]
      have hsum : day - (25 * c + q + e) + c - 0 = 365 * (100 * c + 4 * q) + (s - e) := by omega
      rw [hsum]
      omega
    rw [hyear]
    have h4 : (100 * c + 4 * q + k) / 4 = 25 * c + q := by omega
    have h100 : (100 * c + 4 * q + k) / 100 = c := by omega
    rw [h4, h100]
    omega

/-- How the date of a day comes about: its era, the year of the era and the day of the year, both
from March on, and the month from March on. -/
lemma exists_civilFromDays (n : Nat) :
    ∃ era year day month, year ≤ 399 ∧ n + 719468 = 146097 * era + (daysBefore year + day) ∧
      day ≤ 365 ∧ (day = 365 → (year + 1) % 4 = 0 ∧ ((year + 1) % 100 ≠ 0 ∨ year + 1 = 400)) ∧
      month ≤ 11 ∧ (153 * month + 2) / 5 ≤ day ∧ day < (153 * (month + 1) + 2) / 5 ∧
      civilFromDays n
        = if month < 10 then
            (((400 * era + year : Nat) : Int), month + 3, day - (153 * month + 2) / 5 + 1)
          else
            (((400 * era + year + 1 : Nat) : Int), month - 9, day - (153 * month + 2) / 5 + 1) := by
  have hera : Int.fdiv ((n : Int) + 719468) 146097 = ((n + 719468) / 146097 : Nat) := by
    rw [Int.fdiv_eq_ediv_of_nonneg _ (by decide)]
    omega
  have hday : ((n : Int) + 719468 - ((n + 719468) / 146097 : Nat) * 146097).toNat
      = (n + 719468) % 146097 := by
    omega
  obtain ⟨hyear, hbefore, hwithin, hleap⟩ :=
    yearOfEra_spec (Nat.mod_lt (n + 719468) (by decide : 0 < 146097))
  refine ⟨(n + 719468) / 146097, yearOfEra ((n + 719468) % 146097),
    (n + 719468) % 146097 - daysBefore (yearOfEra ((n + 719468) % 146097)),
    (5 * ((n + 719468) % 146097 - daysBefore (yearOfEra ((n + 719468) % 146097))) + 2) / 153,
    hyear, by omega, by omega, fun h => hleap (by omega), by omega, by omega, by omega, ?_⟩
  have hlength : (n + 719468) % 146097 - daysBefore (yearOfEra ((n + 719468) % 146097)) ≤ 365 := by
    omega
  unfold civilFromDays
  simp only [hera, hday]
  rw [← yearOfEra, ← daysBefore]
  generalize (n + 719468) / 146097 = era
  generalize yearOfEra ((n + 719468) % 146097) = year at hlength ⊢
  generalize (n + 719468) % 146097 - daysBefore year = day at hlength ⊢
  have hmonth : (5 * day + 2) / 153 ≤ 11 := by omega
  by_cases hlate : (5 * day + 2) / 153 < 10
  · simp only [if_pos hlate]
    rw [if_neg (by omega)]
    congr 1
    omega
  · simp only [if_neg hlate]
    rw [if_pos (by omega)]
    congr 1
    omega

lemma isLeap_natCast (year : Nat) :
    isLeap year = (year % 4 == 0 && (year % 100 != 0 || year % 400 == 0)) := by
  have hfmod : ∀ k : Nat, (Int.fmod year k == 0) = (year % k == 0) := by
    intro k
    rw [Int.fmod_eq_emod_of_nonneg _ (Int.natCast_nonneg k), ← Int.natCast_emod, Bool.eq_iff_iff,
      beq_iff_eq, beq_iff_eq, Int.natCast_eq_zero]
  unfold isLeap bne
  rw [← hfmod 4, ← hfmod 100, ← hfmod 400]
  rfl

/-- The date of a day is a date of the calendar, and it is the date of that day. -/
lemma civilFromDays_spec (n : Nat) :
    ∃ year month day : Nat, civilFromDays n = ((year : Int), month, day) ∧ 1 ≤ month ∧ month ≤ 12 ∧
      1 ≤ day ∧ day ≤ daysIn year month ∧ daysFromCivil year month day = n := by
  obtain ⟨era, year, day, month, hyear, hn, hday, hleap, hmonth, hfirst, hlast, hcivil⟩ :=
    exists_civilFromDays n
  unfold daysBefore at hn
  have hfdiv : Int.fdiv ((400 * era + year : Nat) : Int) 400 = era := by
    rw [Int.fdiv_eq_ediv_of_nonneg _ (by decide)]
    omega
  by_cases hlate : month < 10
  · rw [if_pos hlate] at hcivil
    refine ⟨_, _, _, hcivil, by omega, by omega, by omega, ?_, ?_⟩
    · unfold daysIn
      rw [if_neg (by omega)]
      split <;> omega
    · unfold daysFromCivil
      have hshift : (month + 3 + 9) % 12 = month := by omega
      rw [if_neg (by omega)]
      simp only [hfdiv, hshift]
      omega
  · rw [if_neg hlate] at hcivil
    refine ⟨_, _, _, hcivil, by omega, by omega, by omega, ?_, ?_⟩
    · unfold daysIn
      split
      · by_cases hfull : day = 365
        · have hyes : isLeap (400 * era + year + 1 : Nat) := by
            rw [isLeap_natCast]
            simp only [Bool.and_eq_true, Bool.or_eq_true, bne_iff_ne, beq_iff_eq]
            have := hleap hfull
            omega
          rw [if_pos hyes]
          omega
        · split <;> omega
      · split <;> omega
    · unfold daysFromCivil
      have hback : ((400 * era + year + 1 : Nat) : Int) - 1 = (400 * era + year : Nat) := by omega
      have hshift : (month - 9 + 9) % 12 = month := by omega
      rw [if_pos (by omega), hback]
      simp only [hfdiv, hshift]
      omega
end EdgeNode.Calendar
