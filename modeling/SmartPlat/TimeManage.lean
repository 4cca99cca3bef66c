import SmartPlat.Lib.Calendar
import Mathlib.Data.Int.Notation

set_option autoImplicit false

/-! # Calendar time (`timemanage.c`)

`TimeYMD_T` as the cameras fill it in and the database stores it. The C code compares such times in
three ways: as seconds (`TimeLocalYMD2Sec`), as `datetime` columns, and with `memcmp`. On valid times
the three agree. -/

namespace SmartPlat

open SmartPlat.Lib

structure TimeYMD where
  year : ℕ
  month : ℕ
  day : ℕ
  hour : ℕ
  min : ℕ
  sec : ℕ
  deriving DecidableEq, Repr

namespace TimeYMD

/-- A date of the calendar and a time of day. -/
def Valid (t : TimeYMD) : Prop :=
  ValidDate t.year t.month t.day ∧ t.hour < 24 ∧ t.min < 60 ∧ t.sec < 60

instance (t : TimeYMD) : Decidable t.Valid :=
  inferInstanceAs (Decidable (ValidDate t.year t.month t.day ∧ t.hour < 24 ∧ t.min < 60 ∧
    t.sec < 60))

def date (t : TimeYMD) : Date := ⟨t.year, t.month, t.day⟩

def secOfDay (t : TimeYMD) : ℕ := t.hour * 3600 + t.min * 60 + t.sec

/-- The order of `datetime` columns, as a number. -/
def datetime (t : TimeYMD) : ℕ := ((t.year * 13 + t.month) * 32 + t.day) * 86400 + t.secOfDay

end TimeYMD

/-- `TimeLocalYMD2Sec`: `mktime` without daylight saving. The epoch and the zone contribute a
    constant that no caller depends on, since they all take differences; it is left out. -/
def timeLocalYMD2Sec (t : TimeYMD) : ℤ := dayNumber t.year t.month t.day * 86400 + t.secOfDay

namespace TimeYMD

variable {s t : TimeYMD}

theorem secOfDay_lt (h : t.Valid) : t.secOfDay < 86400 := by
  obtain ⟨-, hh, hm, hs⟩ := h
  unfold secOfDay
  omega

/-- Later columns are later instants. -/
theorem sec_lt_of_datetime_lt (hs : s.Valid) (ht : t.Valid) (h : s.datetime < t.datetime) :
    timeLocalYMD2Sec s < timeLocalYMD2Sec t := by
  have hs1 := secOfDay_lt hs
  have ht1 := secOfDay_lt ht
  have hd := daysInMonth_le s.year s.month
  have hd' := daysInMonth_le t.year t.month
  have hsd := hs.1
  obtain ⟨hm, hm', hd1, hd2⟩ := hs.1
  obtain ⟨hn, hn', hd1', hd2'⟩ := ht.1
  unfold datetime at h
  unfold timeLocalYMD2Sec
  by_cases hdate : s.year = t.year ∧ s.month = t.month ∧ s.day = t.day
  · obtain ⟨h1, h2, h3⟩ := hdate
    rw [h1, h2, h3] at h ⊢
    omega
  · have hday : dayNumber s.year s.month s.day < dayNumber t.year t.month t.day :=
      dayNumber_lt hsd (by omega)
    omega

/-- The fields can be read back from the column. -/
theorem eq_of_datetime_eq (hs : s.Valid) (ht : t.Valid) (h : s.datetime = t.datetime) : s = t := by
  have hs1 := secOfDay_lt hs
  have ht1 := secOfDay_lt ht
  have hd := daysInMonth_le s.year s.month
  have hd' := daysInMonth_le t.year t.month
  obtain ⟨⟨hm, hm', hd1, hd2⟩, hh, hmin, hsec⟩ := hs
  obtain ⟨⟨hn, hn', hd1', hd2'⟩, hh', hmin', hsec'⟩ := ht
  have hdate : s.year = t.year ∧ s.month = t.month ∧ s.day = t.day ∧ s.secOfDay = t.secOfDay := by
    unfold datetime at h
    omega
  obtain ⟨h1, h2, h3, h4⟩ := hdate
  unfold secOfDay at h4
  cases s
  cases t
  simp only [TimeYMD.mk.injEq] at *
  omega

theorem datetime_lt_iff (hs : s.Valid) (ht : t.Valid) :
    s.datetime < t.datetime ↔ timeLocalYMD2Sec s < timeLocalYMD2Sec t := by
  refine ⟨sec_lt_of_datetime_lt hs ht, fun h => ?_⟩
  rcases Nat.lt_trichotomy s.datetime t.datetime with hlt | heq | hgt
  · exact hlt
  · rw [eq_of_datetime_eq hs ht heq] at h
    omega
  · have := sec_lt_of_datetime_lt ht hs hgt
    omega

/-- Two valid times are the same instant only if they are the same time. -/
theorem eq_of_sec_eq (hs : s.Valid) (ht : t.Valid)
    (h : timeLocalYMD2Sec s = timeLocalYMD2Sec t) : s = t := by
  refine eq_of_datetime_eq hs ht ?_
  have h1 := datetime_lt_iff hs ht
  have h2 := datetime_lt_iff ht hs
  omega

end TimeYMD

end SmartPlat
