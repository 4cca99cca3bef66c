import SmartPlat.JsonAPI.PagingHandlers
import SmartPlat.VehicleDataAnalysis.Reports
import SmartPlat.Lib.GroupBy

set_option autoImplicit false

/-! # The buckets of the months

A window of `GetEntranceHistoryCount` goes from the start, moved to its month, to the 31st of that month at
the time of day of the start. So it leaves out what comes before the start's day, the 31st from that time
of day on, and, since `04-31` is no date, all of a shorter month. -/

namespace SmartPlat.VehicleDataAnalysis

open SmartPlat.Lib SmartPlat.JsonAPI SmartPlat.MySql

/-! ## The lengths of the months

The length of a month is worked out twice: by the `switch` of `GetDaysByTime`, and by the table that
`FunGetEntranceServiceAnalysis` keeps of its own. The table is the calendar's; the `switch` is not, since
its short months go on into `default` and its test of the centuries is always true. -/

section

variable {year month : ℕ}

theorem isLeap_iff : isLeap year = true ↔ year % 4 = 0 ∧ year % 100 ≠ 0 ∨ year % 400 = 0 := by
  simp only [isLeap, Bool.and_eq_true, Bool.or_eq_true, beq_iff_eq, bne_iff_ne]
  omega

/-- The table of the handler is the calendar's. -/
theorem dayAt_eq (hmonth : 1 ≤ month ∧ month ≤ 12) :
    dayAt year month = .ok (daysInMonth year month) := by
  have hleap : ((year : ℤ) % 4 = 0 ∧ (year : ℤ) % 100 ≠ 0 ∨ (year : ℤ) % 400 = 0)
      ↔ isLeap year = true := by
    rw [isLeap_iff]
    omega
  rw [dayAt, if_neg (by omega), monthDays, if_congr hleap rfl rfl]
  obtain ⟨h1, h12⟩ := hmonth
  interval_cases month <;> rfl

/-- A month for which the `switch` has the length of the calendar. -/
def WellCounted (year month : ℕ) : Prop :=
  month ∉ [4, 6, 9, 11] ∧ ¬ (month = 2 ∧ year % 100 = 0 ∧ year % 400 ≠ 0)

instance (year month : ℕ) : Decidable (WellCounted year month) := inferInstanceAs (Decidable (_ ∧ _))

theorem getDaysByTime_eq_iff (hmonth : 1 ≤ month ∧ month ≤ 12) :
    getDaysByTime year month = daysInMonth year month ↔ WellCounted year month := by
  have hleap := @isLeap_iff year
  by_cases hlong : month ∈ [1, 3, 5, 7, 8, 10, 12]
  · have hdays : daysInMonth year month = 31 := by
      simp only [List.mem_cons, List.not_mem_nil, or_false] at hlong
      rw [daysInMonth, if_neg (by omega), if_neg (by omega)]
    refine iff_of_true (by rw [getDaysByTime, if_pos hlong, hdays]) ⟨?_, ?_⟩
    · simp only [List.mem_cons, List.not_mem_nil, or_false] at hlong ⊢
      omega
    · rintro ⟨rfl, -⟩
      exact absurd hlong (by decide)
  · rw [getDaysByTime, if_neg hlong]
    by_cases hfeb : month = 2
    · subst hfeb
      -- no year leaves a remainder of 100, so that 1900 has a 29 February
      have hswitch : year % 4 = 0 ∧ year % 100 ≠ 100 ∨ year % 400 = 0 ↔ year % 4 = 0 := by omega
      have hwell : WellCounted year 2 ↔ ¬ (year % 100 = 0 ∧ year % 400 ≠ 0) := by simp [WellCounted]
      rw [daysInMonth, if_pos rfl, hwell, if_congr hswitch rfl rfl, if_congr hleap rfl rfl]
      by_cases hfour : year % 4 = 0
      · rw [if_pos hfour]
        split
        · next hyes => exact iff_of_true rfl (by omega)
        · next hno => exact iff_of_false (by decide) (by omega)
      · rw [if_neg hfour, if_neg (by omega)]
        exact iff_of_true rfl (by omega)
    · have hdays : daysInMonth year month = 30 := by
        simp only [List.mem_cons, List.not_mem_nil, or_false] at hlong
        rw [daysInMonth, if_neg hfeb, if_pos (by omega)]
      rw [hdays]
      refine iff_of_false (by split <;> decide) fun h => h.1 ?_
      simp only [List.mem_cons, List.not_mem_nil, or_false] at hlong ⊢
      omega

/-- **Where the two computations are right and agree.** For every year and every month: `GetDaysByTime` gives
    the length of the month, and so does the table of `FunGetEntranceServiceAnalysis`, exactly if the
    month has not 30 days and is no February of a century that is no leap year. -/
theorem daysInMonth_agree_iff (hmonth : 1 ≤ month ∧ month ≤ 12) :
    (getDaysByTime year month = daysInMonth year month ∧
      dayAt year month = .ok (getDaysByTime year month)) ↔ WellCounted year month := by
  rw [dayAt_eq hmonth, ← getDaysByTime_eq_iff hmonth, Except.ok.injEq, eq_comm (b := getDaysByTime _ _),
    and_self]

theorem daysInMonth_agree_iff_february :
    (getDaysByTime 2024 2 = daysInMonth 2024 2 ∧ dayAt 2024 2 = .ok (getDaysByTime 2024 2)) ↔
      WellCounted 2024 2 :=
  daysInMonth_agree_iff (by decide)

/-- April has 28 days, or 29 in a leap year, and 1900 has a 29 February; the handler has 30 and 28. -/
theorem april_has_28_days :
    getDaysByTime 2023 4 = 28 ∧ dayAt 2023 4 = .ok 30 ∧ daysInMonth 2023 4 = 30 ∧
      getDaysByTime 1900 2 = 29 ∧ dayAt 1900 2 = .ok 28 ∧ daysInMonth 1900 2 = 28 := by
  refine ⟨?_, ?_, ?_, ?_, ?_, ?_⟩ <;> rfl

end

variable {t : EntranceTable} {startTime endTime e : TimeYMD} {plateNo : FuzzyStr} {i j n : ℕ}

/-! ## The windows -/

/-- The start of round `i`. -/
def monthStart (startTime : TimeYMD) (i : ℕ) : TimeYMD := nextMonth^[i] startTime

/-- Months in a row. -/
def monthIndex (t : TimeYMD) : ℕ := t.year * 12 + t.month

theorem monthIndex_monthStart (startTime : TimeYMD) (i : ℕ) :
    monthIndex (monthStart startTime i) = monthIndex startTime + i := by
  induction i with
  | zero => rfl
  | succ i ih =>
    rw [monthStart, Function.iterate_succ_apply', ← monthStart, ← Nat.add_assoc, ← ih, nextMonth]
    split
    · next h => simp only [monthIndex, h]; omega
    · simp only [monthIndex]; omega

theorem monthStart_day (startTime : TimeYMD) (i : ℕ) :
    (monthStart startTime i).day = startTime.day ∧
      (monthStart startTime i).secOfDay = startTime.secOfDay ∧
      (monthStart startTime i).hour = startTime.hour ∧ (monthStart startTime i).min = startTime.min ∧
      (monthStart startTime i).sec = startTime.sec := by
  induction i with
  | zero => exact ⟨rfl, rfl, rfl, rfl, rfl⟩
  | succ i ih =>
    rw [monthStart, Function.iterate_succ_apply', ← monthStart, nextMonth]
    split
    · exact ih
    · exact ih

/-- The window of round `i`. -/
def monthWindow (startTime : TimeYMD) (i : ℕ) : TimeYMD × TimeYMD :=
  (monthStart startTime i, { monthStart startTime i with day := 31 })

/-- The row is counted by the statement of a window. -/
def historyFalls [Server] (plateNo : FuzzyStr) (w : TimeYMD × TimeYMD) (r : DeviceEntrance) : Bool :=
  inWindow w.1 w.2 r.vehicleStart && plateNo.like r.plateNo

theorem sum_eq_countP [Server] (t : EntranceTable) (startTime endTime : TimeYMD) (plateNo : FuzzyStr) :
    mySqlCtrlGetEntranceListSumBySerchType t startTime endTime (historySerch plateNo) =
      t.countP (historyFalls plateNo (startTime, endTime)) := by
  refine mySqlCtrlGetEntranceListSumBySerchType_eq t fun r => ?_
  simp [serchTypeConds, serchTypeFilters, historySerch, Cond.holds, historyFalls]

theorem historyCounts_eq [Server] (t : EntranceTable) (plateNo : FuzzyStr) (n : ℕ) (startTime : TimeYMD) :
    historyCounts t plateNo n startTime =
      countsIn (historyFalls plateNo) ((List.range n).map (monthWindow startTime)) t := by
  induction n generalizing startTime with
  | zero => rfl
  | succ n ih =>
    rw [historyCounts, ih, List.range_succ_eq_map, List.map_cons, countsIn, countsIn, List.map_cons,
      List.map_map, List.map_map, List.map_map, sum_eq_countP]
    rfl

/-- A day of some month, and a time of day. -/
def OnClock (t : TimeYMD) : Prop := t.day ≤ 31 ∧ t.hour < 24 ∧ t.min < 60 ∧ t.sec < 60

instance (t : TimeYMD) : Decidable (OnClock t) := inferInstanceAs (Decidable (_ ∧ _ ∧ _ ∧ _))

/-- Within its month an event lies in the window of the month. A server that refuses constants that are no
    dates leaves the shorter months empty. -/
def BehindStart [Server] (startTime e : TimeYMD) : Prop :=
  (Server.refuses = true → daysInMonth e.year e.month = 31 ∧ 1 ≤ startTime.day) ∧
    startTime.day * 86400 + startTime.secOfDay < e.day * 86400 + e.secOfDay ∧
    e.day * 86400 + e.secOfDay < 31 * 86400 + startTime.secOfDay

instance [Server] (startTime e : TimeYMD) : Decidable (BehindStart startTime e) :=
  inferInstanceAs (Decidable ((_ → _ ∧ _) ∧ _ ∧ _))

theorem isDatetime_toDay31 {s : TimeYMD} (hs : OnClock s) :
    IsDatetime s ↔ IsDatetime { s with day := 31 } := by
  obtain ⟨hd, hh, hm, hsec⟩ := hs
  simp [IsDatetime, hd, hh, hm, hsec]

/-- The window from `s` to the 31st of its month. -/
theorem inWindow_toDay31_iff [Server] {s : TimeYMD} (hs : OnClock s) (he : e.Valid) :
    inWindow s { s with day := 31 } e = true ↔
      (e.year = s.year ∧ e.month = s.month) ∧ BehindStart s e := by
  have hlast : ({ s with day := 31 } : TimeYMD).datetime
      = ((s.year * 13 + s.month) * 32 + 31) * 86400 + s.secOfDay := rfl
  have hdays := daysInMonth_le e.year e.month
  obtain ⟨hem, hem', -, -⟩ := he.1
  -- the month is that of an event, so that both constants are dates, perhaps 31 April
  have hwindow : e.year = s.year → e.month = s.month →
      ((dateBefore e { s with day := 31 } = true ∧ dateAfter e s = true) ↔
        s.day * 86400 + s.secOfDay < e.day * 86400 + e.secOfDay ∧
          e.day * 86400 + e.secOfDay < 31 * 86400 + s.secOfDay) := by
    intro hy hm
    have hstart : IsDatetime s := ⟨by omega, hs⟩
    rw [dateBefore, dateAfter, if_pos hstart, if_pos ((isDatetime_toDay31 hs).1 hstart), hlast,
      TimeYMD.datetime, TimeYMD.datetime, hy, hm, decide_eq_true_iff, decide_eq_true_iff]
    omega
  rw [inWindow, decide_eq_true_iff, BehindStart]
  constructor
  · rintro ⟨⟨hfirst, hsecond⟩, hlt, hgt⟩
    have hyear : ({ s with day := 31 } : TimeYMD).year = s.year := rfl
    have hmonth : ({ s with day := 31 } : TimeYMD).month = s.month := rfl
    obtain ⟨hy, hm⟩ := month_of_between hyear hmonth (isDatetime_toDay31 hs) (isDatetime_of_valid he)
      hgt hlt
    refine ⟨⟨hy, hm⟩, fun hrefuses => ?_, (hwindow hy hm).1 ⟨hlt, hgt⟩⟩
    rw [Evaluates, hrefuses] at hfirst hsecond
    have hvalid := hfirst.resolve_right (by decide)
    have hvalid31 := hsecond.resolve_right (by decide)
    have hlong : 31 ≤ daysInMonth s.year s.month := hvalid31.1.2.2.2
    rw [← hy, ← hm] at hlong
    exact ⟨Nat.le_antisymm hdays hlong, hvalid.1.2.2.1⟩
  · rintro ⟨⟨hy, hm⟩, hlong, horder⟩
    refine ⟨?_, (hwindow hy hm).2 horder⟩
    cases hrefuses : Server.refuses with
    | false => exact ⟨.inr hrefuses, .inr hrefuses⟩
    | true =>
        obtain ⟨hlong, hday⟩ := hlong hrefuses
        rw [hy, hm] at hlong
        rw [hm] at hem hem'
        have hvalid31 : ValidDate s.year s.month 31 := ⟨hem, hem', by decide, hlong.ge⟩
        have hvalid : ValidDate s.year s.month s.day := ⟨hem, hem', hday, hlong.ge.trans' hs.1⟩
        exact ⟨.inl ⟨hvalid, hs.2⟩, .inl ⟨hvalid31, hs.2⟩⟩

theorem inWindow_month_iff [Server] (hstart : OnClock startTime) (he : e.Valid) :
    inWindow (monthWindow startTime i).1 (monthWindow startTime i).2 e = true ↔
      monthOf e = monthOf (monthStart startTime i) ∧ BehindStart startTime e := by
  obtain ⟨hday, hsod, hhour, hmin, hsec⟩ := monthStart_day startTime i
  have hclock : OnClock (monthStart startTime i) := by
    rwa [OnClock, hday, hhour, hmin, hsec]
  rw [monthWindow, inWindow_toDay31_iff hclock he]
  simp only [BehindStart, hday, hsod, monthOf, YearMonth.mk.injEq, Nat.cast_inj]

/-- No two rounds are about one month. -/
theorem monthStart_injective (h : monthOf (monthStart startTime i) = monthOf (monthStart startTime j)) :
    i = j := by
  have hi := monthIndex_monthStart startTime i
  have hj := monthIndex_monthStart startTime j
  simp only [monthOf, YearMonth.mk.injEq, Nat.cast_inj] at h
  rw [monthIndex, h.1, h.2, ← monthIndex] at hi
  omega

/-- Within the twelve months an event falls in the window of its month only. For a start that is no time the
    server compares texts. -/
def FallsInMonth [Server] (startTime e : TimeYMD) : Prop :=
  if OnClock startTime then BehindStart startTime e
  else ∀ j < 12, inWindow (monthWindow startTime j).1 (monthWindow startTime j).2 e = true ↔
    monthOf e = monthOf (monthStart startTime j)

instance [Server] (startTime e : TimeYMD) : Decidable (FallsInMonth startTime e) :=
  inferInstanceAs (Decidable (if OnClock startTime then _ else _))

theorem fallsInMonth_iff [Server] (he : e.Valid) (hi : i < 12)
    (hmonth : monthOf e = monthOf (monthStart startTime i)) :
    (∀ j < 12, inWindow (monthWindow startTime j).1 (monthWindow startTime j).2 e = true ↔ j = i) ↔
      FallsInMonth startTime e := by
  have hown : ∀ j, monthOf e = monthOf (monthStart startTime j) ↔ j = i := by
    intro j
    rw [hmonth]
    exact ⟨fun h => (monthStart_injective h).symm, fun h => h ▸ rfl⟩
  rw [FallsInMonth]
  split
  · next hclock =>
      simp only [inWindow_month_iff hclock he, hown]
      exact ⟨fun h => ((h i hi).2 rfl).2, fun h j _ => and_iff_left h⟩
  · simp only [hown]

/-- From 8.0.16 on the bucket of April is a statement the server refuses. -/
example :
    letI : Server := Server.refusing
    ¬ FallsInMonth ⟨2024, 1, 1, 0, 0, 0⟩ ⟨2024, 4, 15, 12, 0, 0⟩ := by
  decide

/-! ## The report -/

/-- The twelve counts tile the months: each is the number of the events counted in it, and an event of the
    plate in one of the twelve months is counted in the bucket of its own month and in no other. -/
structure MonthsTile [Server] (startTime endTime : TimeYMD) (plateNo : FuzzyStr)
    (t : EntranceTable) : Prop where
  counts : CountsEvents (fun t => getEntranceHistoryCount t startTime endTime plateNo) 12 t
  ownMonth : ∀ r ∈ t, plateNo.like r.plateNo = true → ∀ i < 12,
    monthOf r.vehicleStart = monthOf (monthStart startTime i) →
      CountedOnlyIn (fun t => getEntranceHistoryCount t startTime endTime plateNo) 12 r i

/-- **Which visits are counted.** For every table, start and plate: the twelve counts tile the months
    exactly if every visit of the plate in one of the months falls, within its month, behind the day
    and time of the start and before the 31st at that time of day, and where the server refuses
    constants that are no dates, in a month that has a 31st. -/
theorem monthsTile_iff [Server] (startTime endTime : TimeYMD) (plateNo : FuzzyStr)
    (ht : ∀ r ∈ t, r.vehicleStart.Valid) :
    MonthsTile startTime endTime plateNo t ↔ ∀ r ∈ t, plateNo.like r.plateNo = true → ∀ i < 12,
      monthOf r.vehicleStart = monthOf (monthStart startTime i) →
        FallsInMonth startTime r.vehicleStart := by
  have hreport : (fun t => getEntranceHistoryCount t startTime endTime plateNo) =
      countsIn (historyFalls plateNo) ((List.range 12).map (monthWindow startTime)) :=
    funext fun t => historyCounts_eq t plateNo 12 startTime
  have hcounted : ∀ r ∈ t, plateNo.like r.plateNo = true → ∀ j < 12,
      (CountedIn (fun t => getEntranceHistoryCount t startTime endTime plateNo) r j ↔
        inWindow (monthWindow startTime j).1 (monthWindow startTime j).2 r.vehicleStart = true) := by
    intro r hr hlike j hj
    rw [hreport, countedIn_countsIn, List.getElem?_map, List.getElem?_range hj]
    simp [historyFalls, hlike]
  have hone : ∀ r ∈ t, plateNo.like r.plateNo = true → ∀ i < 12,
      monthOf r.vehicleStart = monthOf (monthStart startTime i) →
        (CountedOnlyIn (fun t => getEntranceHistoryCount t startTime endTime plateNo) 12 r i ↔
          FallsInMonth startTime r.vehicleStart) := by
    intro r hr hlike i hi hmonth
    rw [← fallsInMonth_iff (ht r hr) hi hmonth]
    exact forall₂_congr fun j hj => by rw [hcounted r hr hlike j hj]
  constructor
  · intro h r hr hlike i hi hmonth
    exact (hone r hr hlike i hi hmonth).1 (h.ownMonth r hr hlike i hi hmonth)
  · intro h
    refine ⟨?_, fun r hr hlike i hi hmonth => (hone r hr hlike i hi hmonth).2 ?_⟩
    · rw [hreport]
      exact countsEvents_countsIn
    · exact h r hr hlike i hi hmonth

def plateA : FuzzyStr := ⟨"A", by decide⟩

/-- Visits of March and of April. -/
theorem monthsTile_spring :
    letI : Server := Server.textual
    MonthsTile ⟨2024, 1, 1, 0, 0, 0⟩ ⟨2024, 12, 31, 23, 59, 59⟩ plateA
      [sampleEntrance "A" ⟨2024, 3, 15, 12, 0, 0⟩, sampleEntrance "A" ⟨2024, 4, 30, 23, 59, 59⟩] :=
  letI : Server := Server.textual
  (monthsTile_iff _ _ _ (by decide)).2 (by decide)

/-- A visit at noon of 31 January is counted in no month, of a year that is asked for from its first second
    on; and so is one on 15 March, when the year is asked for from 20 January on. -/
theorem last_of_january_not_counted :
    letI : Server := Server.textual
    (¬ MonthsTile ⟨2024, 1, 1, 0, 0, 0⟩ ⟨2024, 12, 31, 23, 59, 59⟩ plateA
        [sampleEntrance "A" ⟨2024, 1, 31, 12, 0, 0⟩] ∧
      getEntranceHistoryCount [sampleEntrance "A" ⟨2024, 1, 31, 12, 0, 0⟩] ⟨2024, 1, 1, 0, 0, 0⟩
        ⟨2024, 12, 31, 23, 59, 59⟩ plateA = List.replicate 12 0) ∧
    ¬ MonthsTile ⟨2024, 1, 20, 0, 0, 0⟩ ⟨2024, 12, 31, 23, 59, 59⟩ plateA
        [sampleEntrance "A" ⟨2024, 3, 15, 12, 0, 0⟩] := by
  let _ : Server := Server.textual
  refine ⟨⟨fun h => ?_, by decide⟩, fun h => ?_⟩
  · have hcounted := (h.ownMonth _ List.mem_cons_self (by decide) 0 (by decide)
      (by decide) 0 (by decide)).2 rfl
    exact absurd hcounted (by decide)
  · have hcounted := (h.ownMonth _ List.mem_cons_self (by decide) 2 (by decide)
      (by decide) 2 (by decide)).2 rfl
    exact absurd hcounted (by decide)

end SmartPlat.VehicleDataAnalysis
