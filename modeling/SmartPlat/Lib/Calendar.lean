import Mathlib.Data.Nat.Notation
import Mathlib.Logic.Function.Iterate
import Mathlib.Tactic.Common

set_option autoImplicit false

/-! # Counting days by a table of month lengths

Programs walk from date to date with a table of month lengths of their own. Every table `len` makes a
calendar with twelve months: `nextDate` walks through it, `dayCount` numbers its dates, and on the
dates of the calendar the two agree. -/

namespace SmartPlat.Lib

structure Date where
  year : ℕ
  month : ℕ
  day : ℕ
  deriving DecidableEq, Repr

variable (len : ℕ → ℕ → ℕ)

/-- A date of the calendar that the table makes. -/
def InTable (d : Date) : Prop :=
  1 ≤ d.month ∧ d.month ≤ 12 ∧ 1 ≤ d.day ∧ d.day ≤ len d.year d.month

instance (d : Date) : Decidable (InTable len d) :=
  inferInstanceAs (Decidable (1 ≤ d.month ∧ d.month ≤ 12 ∧ 1 ≤ d.day ∧ d.day ≤ len d.year d.month))

/-- The day after, where a month ends on the day the table says and on no other. -/
def nextDate (d : Date) : Date :=
  if d.day ≠ len d.year d.month then { d with day := d.day + 1 }
  else if d.month ≠ 12 then ⟨d.year, d.month + 1, 1⟩
  else ⟨d.year + 1, 1, 1⟩

/-- Days of year `y` before month `m`. -/
def countMonths (y : ℕ) : ℕ → ℕ
  | 0 => 0
  | 1 => 0
  | m + 2 => countMonths y (m + 1) + len y (m + 1)

/-- Days of the years before `y`. -/
def countYears : ℕ → ℕ
  | 0 => 0
  | y + 1 => countYears y + countMonths len y 13

def dayCount (d : Date) : ℕ := countYears len d.year + countMonths len d.year d.month + (d.day - 1)

variable {len} {d d' : Date}

theorem countMonths_succ (y : ℕ) {m : ℕ} (h : 1 ≤ m) :
    countMonths len y (m + 1) = countMonths len y m + len y m := by
  obtain ⟨m, rfl⟩ := Nat.exists_eq_add_of_le' h
  rfl

theorem countMonths_mono (y : ℕ) {m n : ℕ} (hm : 1 ≤ m) (h : m ≤ n) :
    countMonths len y m ≤ countMonths len y n := by
  induction h with
  | refl => exact Nat.le_refl _
  | step hn ih =>
      rw [countMonths_succ y (Nat.le_trans hm hn)]
      exact Nat.le_trans ih (Nat.le_add_right _ _)

theorem countYears_mono {y z : ℕ} (h : y ≤ z) : countYears len y ≤ countYears len z := by
  induction h with
  | refl => exact Nat.le_refl _
  | step _ ih => exact Nat.le_trans ih (Nat.le_add_right _ _)

/-! ## The order of the dates -/

/-- A day lies before the first of the next month. -/
theorem dayCount_lt_nextMonth (h : InTable len d) :
    dayCount len d < countYears len d.year + countMonths len d.year (d.month + 1) := by
  obtain ⟨hm, -, hd, hd'⟩ := h
  rw [dayCount, countMonths_succ _ hm]
  omega

/-- A day lies before the first of the next year. -/
theorem dayCount_lt_nextYear (h : InTable len d) : dayCount len d < countYears len (d.year + 1) := by
  have hmonth := dayCount_lt_nextMonth h
  have hlast : countMonths len d.year (d.month + 1) ≤ countMonths len d.year 13 :=
    countMonths_mono _ (Nat.le_add_left 1 d.month) (Nat.succ_le_succ h.2.1)
  exact Nat.lt_of_lt_of_le hmonth (Nat.add_le_add_left hlast _)

/-- **Later dates have larger numbers.** -/
theorem dayCount_lt (h : InTable len d) (hlt : d.year < d'.year ∨
    d.year = d'.year ∧ (d.month < d'.month ∨ d.month = d'.month ∧ d.day < d'.day)) :
    dayCount len d < dayCount len d' := by
  rcases hlt with hy | ⟨hy, hm | ⟨hm, hd⟩⟩
  · have hnext := dayCount_lt_nextYear h
    have hmono : countYears len (d.year + 1) ≤ countYears len d'.year := countYears_mono hy
    rw [dayCount.eq_def len d']
    omega
  · have hnext := dayCount_lt_nextMonth h
    have hmono : countMonths len d.year (d.month + 1) ≤ countMonths len d.year d'.month :=
      countMonths_mono _ (Nat.le_add_left 1 d.month) hm
    rw [dayCount.eq_def len d', ← hy]
    omega
  · have hd1 := h.2.2.1
    rw [dayCount, dayCount, hy, hm]
    omega

/-- A date is known by its number. -/
theorem eq_of_dayCount_eq (h : InTable len d) (h' : InTable len d')
    (heq : dayCount len d = dayCount len d') : d = d' := by
  have hle : ¬ (d.year < d'.year ∨ d.year = d'.year ∧
      (d.month < d'.month ∨ d.month = d'.month ∧ d.day < d'.day)) := by
    intro hlt
    exact absurd heq (Nat.ne_of_lt (dayCount_lt h hlt))
  have hge : ¬ (d'.year < d.year ∨ d'.year = d.year ∧
      (d'.month < d.month ∨ d'.month = d.month ∧ d'.day < d.day)) := by
    intro hlt
    exact absurd heq.symm (Nat.ne_of_lt (dayCount_lt h' hlt))
  obtain ⟨y, m, n⟩ := d
  obtain ⟨y', m', n'⟩ := d'
  simp only [Date.mk.injEq] at hle hge ⊢
  omega

/-! ## Walking -/

theorem nextDate_inTable (hlen : ∀ y m, 1 ≤ len y m) (h : InTable len d) :
    InTable len (nextDate len d) := by
  obtain ⟨hm, hm', hd, hd'⟩ := h
  unfold nextDate
  split
  · next hne => exact ⟨hm, hm', Nat.le_add_left 1 d.day, Nat.lt_of_le_of_ne hd' hne⟩
  · split
    · next hdec =>
        exact ⟨Nat.le_add_left 1 d.month, Nat.lt_of_le_of_ne hm' hdec, Nat.le_refl 1, hlen _ _⟩
    · exact ⟨Nat.le_refl 1, (by decide : 1 ≤ 12), Nat.le_refl 1, hlen _ _⟩

theorem dayCount_nextDate (h : InTable len d) : dayCount len (nextDate len d) = dayCount len d + 1 := by
  obtain ⟨hm, hm', hd, hd'⟩ := h
  unfold nextDate
  split
  · simp only [dayCount]
    omega
  · next hlast =>
      rw [not_not] at hlast
      split
      · simp only [dayCount, countMonths_succ d.year hm]
        omega
      · next hdec =>
          rw [not_not] at hdec
          have hyear : countYears len (d.year + 1) =
              countYears len d.year + (countMonths len d.year 12 + len d.year 12) := rfl
          have hfirst : countMonths len (d.year + 1) 1 = 0 := rfl
          simp only [dayCount, hyear, hfirst, hdec]
          rw [hdec] at hlast
          omega

/-- **The walk counts days.** -/
theorem iterate_nextDate (hlen : ∀ y m, 1 ≤ len y m) (h : InTable len d) (i : ℕ) :
    InTable len ((nextDate len)^[i] d) ∧
      dayCount len ((nextDate len)^[i] d) = dayCount len d + i := by
  induction i with
  | zero => exact ⟨h, rfl⟩
  | succ i ih =>
      rw [Function.iterate_succ_apply']
      exact ⟨nextDate_inTable hlen ih.1, by rw [dayCount_nextDate ih.1, ih.2]; rfl⟩

/-- Past the end of a month the walk never meets the end of a month. -/
theorem iterate_nextDate_past (h : len d.year d.month < d.day) (i : ℕ) :
    (nextDate len)^[i] d = { d with day := d.day + i } := by
  induction i with
  | zero => rfl
  | succ i ih =>
      rw [Function.iterate_succ_apply', ih, nextDate, if_pos]
      · rfl
      · show d.day + i ≠ len d.year d.month
        omega

/-! ## The Gregorian calendar

Day numbers of calendar dates, counted from the first of January of year `0`. The one fact programs
lean on is that they grow with the date (`dayNumber_lt`), so that comparing dates field by field and
comparing instants is the same. -/

def isLeap (y : ℕ) : Bool := y % 4 == 0 && (y % 100 != 0 || y % 400 == 0)

def daysInMonth (y m : ℕ) : ℕ :=
  if m = 2 then if isLeap y then 29 else 28
  else if m = 4 ∨ m = 6 ∨ m = 9 ∨ m = 11 then 30
  else 31

def daysInYear (y : ℕ) : ℕ := if isLeap y then 366 else 365

/-- Days of the years before `y`. -/
def daysBeforeYear : ℕ → ℕ
  | 0 => 0
  | y + 1 => daysBeforeYear y + daysInYear y

/-- Days of year `y` before month `m`. -/
def daysBeforeMonth (y : ℕ) : ℕ → ℕ
  | 0 => 0
  | 1 => 0
  | m + 2 => daysBeforeMonth y (m + 1) + daysInMonth y (m + 1)

def dayNumber (y m d : ℕ) : ℕ := daysBeforeYear y + daysBeforeMonth y m + (d - 1)

/-- A date of the calendar. -/
def ValidDate (y m d : ℕ) : Prop := 1 ≤ m ∧ m ≤ 12 ∧ 1 ≤ d ∧ d ≤ daysInMonth y m

instance (y m d : ℕ) : Decidable (ValidDate y m d) :=
  inferInstanceAs (Decidable (1 ≤ m ∧ m ≤ 12 ∧ 1 ≤ d ∧ d ≤ daysInMonth y m))

theorem daysInMonth_le (y m : ℕ) : daysInMonth y m ≤ 31 := by
  unfold daysInMonth
  split
  · split <;> omega
  · split <;> omega

/-- The twelve months make up the year. -/
theorem daysBeforeMonth_thirteen (y : ℕ) : daysBeforeMonth y 13 = daysInYear y := by
  simp only [daysBeforeMonth, daysInMonth, daysInYear]
  by_cases h : isLeap y = true <;> simp [h]

/-- The calendar is the one its month lengths make. -/
theorem dayNumber_eq (y m d : ℕ) : dayNumber y m d = dayCount daysInMonth ⟨y, m, d⟩ := by
  have hmonth : ∀ m, daysBeforeMonth y m = countMonths daysInMonth y m := by
    intro m
    induction m using countMonths.induct with
    | case1 => rfl
    | case2 => rfl
    | case3 m ih => rw [daysBeforeMonth, countMonths, ih]
  have hyear : ∀ y, daysBeforeYear y = countYears daysInMonth y := by
    intro y
    induction y with
    | zero => rfl
    | succ y ih =>
        rw [daysBeforeYear, countYears, ih, ← daysBeforeMonth_thirteen]
        rfl
  rw [dayNumber, dayCount, hmonth, hyear]

/-- **Later dates have larger day numbers.** -/
theorem dayNumber_lt {y m d y' m' d' : ℕ} (h : ValidDate y m d)
    (hlt : y < y' ∨ y = y' ∧ (m < m' ∨ m = m' ∧ d < d')) :
    dayNumber y m d < dayNumber y' m' d' := by
  rw [dayNumber_eq, dayNumber_eq]
  exact dayCount_lt h hlt

end SmartPlat.Lib
