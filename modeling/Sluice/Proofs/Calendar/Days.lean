import Mathlib.Algebra.Ring.Nat
import Sluice.Calendar

/-! The civil calendar by its own rules, and the computation of a date from a count of days. A date is numbered by the
days of the years and the months before it. The date computed for a number exists and has that number, so it is the
only one, and one day later it is the next date of the calendar. -/

set_option autoImplicit false

namespace Sluice.Date

def isLeap (year : Int) : Bool := year % 4 == 0 && (year % 100 != 0 || year % 400 == 0)

def daysIn (leap : Bool) : Nat → Nat
  | 2 => if leap then 29 else 28
  | 4 | 6 | 9 | 11 => 30
  | _ => 31

def daysBefore (leap : Bool) (month : Nat) : Nat := ((List.range' 1 (month - 1)).map (daysIn leap)).sum

/-- The leap days from the beginning of the year 1 to the end of a year. -/
def leapDays (year : Int) : Int := year / 4 - year / 100 + year / 400

def newYear (year : Int) : Int := 365 * (year - 1970) + (leapDays (year - 1) - leapDays 1969)

/-- The days from 1 January 1970 to a date. -/
def number (date : Date) : Int :=
  newYear date.year + daysBefore (isLeap date.year) date.month + (date.day - 1 : Int)

structure Exists (date : Date) : Prop where
  month : 1 ≤ date.month ∧ date.month ≤ 12
  day : 1 ≤ date.day ∧ date.day ≤ daysIn (isLeap date.year) date.month

def next (date : Date) : Date :=
  if date.day < daysIn (isLeap date.year) date.month then ⟨date.year, date.month, date.day + 1⟩
  else if date.month < 12 then ⟨date.year, date.month + 1, 1⟩
  else ⟨date.year + 1, 1, 1⟩

variable {date other : Date}

theorem isLeap_iff {year : Int} : isLeap year = true ↔ year % 4 = 0 ∧ (year % 100 ≠ 0 ∨ year % 400 = 0) := by
  simp [isLeap]

theorem leapDays_eq (year : Int) : leapDays year = leapDays (year - 1) + (isLeap year).toNat := by
  unfold leapDays
  cases leap : isLeap year with
  | true =>
    have rule := isLeap_iff.1 leap
    simp only [Bool.toNat_true]
    omega
  | false =>
    have rule : ¬ (year % 4 = 0 ∧ (year % 100 ≠ 0 ∨ year % 400 = 0)) := by
      rw [← isLeap_iff, leap]
      exact Bool.false_ne_true
    simp only [Bool.toNat_false]
    omega

theorem newYear_succ (year : Int) : newYear (year + 1) = newYear year + 365 + (isLeap year).toNat := by
  have leap := leapDays_eq year
  unfold newYear
  rw [Int.add_sub_cancel]
  omega

theorem newYear_mono {first second : Int} (before : first ≤ second) : newYear first ≤ newYear second := by
  unfold newYear leapDays
  omega

theorem daysBefore_succ (leap : Bool) {month : Nat} (positive : 1 ≤ month) :
    daysBefore leap (month + 1) = daysBefore leap month + daysIn leap month := by
  obtain ⟨earlier, rfl⟩ := Nat.exists_eq_add_of_le' positive
  simp [daysBefore, List.range'_1_concat, Nat.add_comm]

theorem daysIn_bounds (leap : Bool) (month : Nat) : 1 ≤ daysIn leap month ∧ daysIn leap month ≤ 31 := by
  unfold daysIn
  split <;> cases leap <;> decide

theorem daysBefore_mono (leap : Bool) {first second : Nat} (positive : 1 ≤ first) (before : first ≤ second) :
    daysBefore leap first ≤ daysBefore leap second := by
  induction before with
  | refl => exact Nat.le_refl _
  | @step month later ih =>
    rw [daysBefore_succ leap (Nat.le_trans positive later)]
    omega

theorem daysBefore_end (leap : Bool) : daysBefore leap 13 = 365 + leap.toNat := by
  cases leap <;> decide

/-! Every day of a month comes before the next month, and every month before the next year. -/

theorem Exists.lt_month (exist : date.Exists) {month : Nat} (later : date.month < month) :
    daysBefore (isLeap date.year) date.month + date.day ≤ daysBefore (isLeap date.year) month := by
  have next := daysBefore_succ (isLeap date.year) exist.month.1
  have whole := daysBefore_mono (isLeap date.year) (Nat.le_add_left 1 date.month) later
  have day := exist.day
  omega

theorem Exists.lt_year (exist : date.Exists) {year : Int} (later : date.year < year) : date.number < newYear year := by
  have whole := exist.lt_month (Nat.lt_succ_of_le exist.month.2)
  have next := newYear_succ date.year
  have mono := newYear_mono (Int.add_one_le_of_lt later)
  rw [daysBefore_end] at whole
  unfold number
  omega

theorem newYear_le_number (exist : date.Exists) : newYear date.year ≤ date.number := by
  have day := exist.day
  unfold number
  omega

/-- No two dates have one number. -/
theorem Exists.eq_of_number (first : date.Exists) (second : other.Exists) (same : date.number = other.number) :
    date = other := by
  obtain ⟨year, month, day⟩ := date
  obtain ⟨year', month', day'⟩ := other
  obtain rfl : year = year' := by
    have started := newYear_le_number first
    have started' := newYear_le_number second
    rcases Int.lt_trichotomy year year' with before | same | after
    · have ended := first.lt_year before
      simp only at *
      omega
    · exact same
    · have ended := second.lt_year after
      simp only at *
      omega
  have days := first.day
  have days' := second.day
  simp only [number] at same
  obtain rfl : month = month' := by
    rcases Nat.lt_trichotomy month month' with before | same | after
    · have ended := first.lt_month before
      simp only at *
      omega
    · exact same
    · have ended := second.lt_month after
      simp only at *
      omega
  obtain rfl : day = day' := by omega
  rfl

theorem Exists.next (exist : date.Exists) : date.next.Exists := by
  obtain ⟨month, day⟩ := exist
  unfold Date.next
  split
  · next within => exact ⟨month, by simp only; omega⟩
  · split
    · next within => exact ⟨by simp only; omega, Nat.le_refl 1, (daysIn_bounds _ _).1⟩
    · exact ⟨by simp only; omega, Nat.le_refl 1, (daysIn_bounds _ _).1⟩

theorem Exists.number_next (exist : date.Exists) : date.next.number = date.number + 1 := by
  obtain ⟨month, day⟩ := exist
  have following := daysBefore_succ (isLeap date.year) month.1
  unfold Date.next
  split
  · simp only [number]
    omega
  · next within =>
    split
    · simp only [number]
      omega
    · next final =>
      have last : date.month = 12 := by omega
      have year := newYear_succ date.year
      have whole : daysBefore (isLeap date.year) (12 + 1) = 365 + (isLeap date.year).toNat := daysBefore_end _
      have first : daysBefore (isLeap (date.year + 1)) 1 = 0 := rfl
      rw [last] at following within day
      simp only [number, last, first]
      omega

/-! Days of an era. -/

/-- The days of an era before one of its years, which begin in March. -/
def daysOfEra (year : Nat) : Nat := 365 * year + year / 4 - year / 100 + year / 400

/-- How many whole years of 365 days fit in once the leap days before are taken off. -/
def withoutLeapDays (day : Nat) : Nat := day - day / 1460 + day / 36524 - day / 146096

theorem withoutLeapDays_mono {first second : Nat} (before : first ≤ second) (within : second ≤ 146096) :
    withoutLeapDays first ≤ withoutLeapDays second := by
  unfold withoutLeapDays
  omega

theorem withoutLeapDays_daysOfEra : ∀ year < 400,
    withoutLeapDays (daysOfEra year) / 365 = year ∧ withoutLeapDays (daysOfEra (year + 1) - 1) / 365 = year := by
  decide +kernel

theorem daysOfEra_le {year : Nat} (within : year < 400) : daysOfEra (year + 1) ≤ 146097 := by
  unfold daysOfEra
  omega

/-- The year that is computed for a day of an era is the one in which the day lies. -/
theorem daysOfEra_bounds {day year : Nat} (within : day < 146097) (computed : withoutLeapDays day / 365 = year) :
    year < 400 ∧ daysOfEra year ≤ day ∧ day < daysOfEra (year + 1) := by
  have latest : withoutLeapDays 146096 / 365 = 399 := by decide
  have bound : year < 400 := by
    have mono := withoutLeapDays_mono (Nat.le_of_lt_succ within) (Nat.le_refl _)
    omega
  refine ⟨bound, Nat.le_of_not_lt fun early => ?_, Nat.lt_of_not_le fun late => ?_⟩
  · -- the count is monotone, so it is enough to know it at the last day of the year before
    cases year with
    | zero => exact absurd early (Nat.not_lt_zero day)
    | succ earlier =>
      have known := (withoutLeapDays_daysOfEra earlier (by omega)).2
      have limit : daysOfEra (earlier + 1) ≤ 146097 := daysOfEra_le (by omega)
      have mono := withoutLeapDays_mono (Nat.le_sub_one_of_lt early) (by omega)
      omega
  · have mono := withoutLeapDays_mono late (by omega)
    by_cases final : year = 399
    · subst final
      have whole : daysOfEra (399 + 1) = 146097 := rfl
      omega
    · have known := (withoutLeapDays_daysOfEra (year + 1) (by omega)).1
      omega

theorem newYear_era (era : Int) (year : Nat) :
    newYear (year + era * 400 + 1) = daysOfEra year + era * 146097 - 719162 := by
  unfold newYear leapDays daysOfEra
  omega

theorem daysOfEra_succ (era : Int) (year : Nat) :
    daysOfEra (year + 1) = daysOfEra year + 365 + (isLeap (year + era * 400 + 1)).toNat := by
  have started := newYear_era era year
  have ended := newYear_era era (year + 1)
  have next := newYear_succ (year + era * 400 + 1)
  have same : ((year + 1 : Nat) : Int) + era * 400 + 1 = year + era * 400 + 1 + 1 := by omega
  rw [same] at ended
  omega

/-- The month of a day of a year that begins in March, and the day of the month. -/
def monthOf (day : Nat) : Nat :=
  if (5 * day + 2) / 153 < 10 then (5 * day + 2) / 153 + 3 else (5 * day + 2) / 153 - 9

def dayOf (day : Nat) : Nat := day - (153 * ((5 * day + 2) / 153) + 2) / 5 + 1

theorem monthOf_bounds : ∀ day < 366, 1 ≤ monthOf day ∧ monthOf day ≤ 12 := by decide +kernel

theorem dayOf_early (leap : Bool) : ∀ day < 366, monthOf day ≤ 2 →
    daysBefore leap (monthOf day) + dayOf day + 305 = day ∧
      (day < 365 + leap.toNat → dayOf day ≤ daysIn leap (monthOf day)) := by
  cases leap <;> decide +kernel

theorem dayOf_late (leap : Bool) : ∀ day < 366, 2 < monthOf day →
    daysBefore leap (monthOf day) + dayOf day = day + 60 + leap.toNat ∧ dayOf day ≤ daysIn leap (monthOf day) := by
  cases leap <;> decide +kernel

theorem one_le_dayOf (day : Nat) : 1 ≤ dayOf day := Nat.le_add_left 1 _

/-- A count of days falls on a day of a year of an era, from which its date is computed. -/
theorem exists_march (days : Int) : ∃ (era : Int) (year day : Nat),
    days = era * 146097 + daysOfEra year + day - 719468 ∧
    day < 365 + (isLeap (year + era * 400 + 1)).toNat ∧
    ofDays days = ⟨year + era * 400 + (if monthOf day ≤ 2 then 1 else 0), monthOf day, dayOf day⟩ := by
  obtain ⟨era, started⟩ : ∃ era, era = (days + 719468).fdiv 146097 := ⟨_, rfl⟩
  obtain ⟨whole, counted⟩ : ∃ whole, whole = (days + 719468 - era * 146097).toNat := ⟨_, rfl⟩
  obtain ⟨year, computed⟩ : ∃ year, withoutLeapDays whole / 365 = year := ⟨_, rfl⟩
  have floor : era = (days + 719468) / 146097 := by
    rw [started, Int.fdiv_eq_ediv_of_nonneg _ (by decide)]
  obtain ⟨bound, begun, ends⟩ := daysOfEra_bounds (by omega) computed
  rw [daysOfEra_succ era] at ends
  refine ⟨era, year, whole - daysOfEra year, by omega, by omega, ?_⟩
  have sum : 365 * year + year / 4 - year / 100 = daysOfEra year := by
    unfold daysOfEra
    omega
  simp only [ofDays, ← started, ← counted]
  rw [← withoutLeapDays, computed, sum]
  rfl

theorem ofDays_spec (days : Int) : (ofDays days).Exists ∧ (ofDays days).number = days := by
  obtain ⟨era, year, day, rfl, within, date⟩ := exists_march days
  have january := newYear_era era year
  have limit := Bool.toNat_le (isLeap (year + era * 400 + 1))
  have month := monthOf_bounds day (by omega)
  have positive := one_le_dayOf day
  rw [date]
  by_cases early : monthOf day ≤ 2
  · -- January and February belong to the civil year that is about to begin
    obtain ⟨counted, inside⟩ := dayOf_early (isLeap (year + era * 400 + 1)) day (by omega) early
    simp only [if_pos early]
    refine ⟨⟨month, positive, inside within⟩, ?_⟩
    simp only [number]
    omega
  · obtain ⟨counted, inside⟩ := dayOf_late (isLeap (year + era * 400)) day (by omega) (Nat.lt_of_not_le early)
    have next := newYear_succ (year + era * 400)
    simp only [if_neg early, Int.add_zero]
    refine ⟨⟨month, positive, inside⟩, ?_⟩
    simp only [number]
    omega

theorem year_ofDays_le_iff {days year : Int} : (ofDays days).year ≤ year ↔ days < newYear (year + 1) := by
  obtain ⟨exist, number⟩ := ofDays_spec days
  constructor
  · intro early
    have ended := exist.lt_year (Int.lt_add_one_of_le early)
    omega
  · intro before
    refine Int.le_of_not_gt fun late => ?_
    have begun := newYear_le_number exist
    have mono := newYear_mono (Int.add_one_le_of_lt late)
    omega

theorem Exists.ofDays_number (exist : date.Exists) : ofDays date.number = date :=
  (ofDays_spec date.number).1.eq_of_number exist (ofDays_spec date.number).2

/-- The calendar by its days: it starts at the first of its dates and goes from each to the next. -/
theorem ofDays_succ (days : Int) : ofDays (days + 1) = (ofDays days).next := by
  obtain ⟨exist, number⟩ := ofDays_spec days
  rw [← exist.next.ofDays_number, exist.number_next, number]

example : ofDays 0 = ⟨1970, 1, 1⟩ ∧ ofDays 2932896 = ⟨9999, 12, 31⟩ ∧ ofDays (-719469) = ⟨0, 2, 29⟩ := by decide

end Sluice.Date
