import SmartPlat.VehicleDataAnalysis.Entrance
import SmartPlat.Lib.GroupBy

set_option autoImplicit false

/-! # The buckets of the days

The walk goes by the month lengths of `GetDaysByTime`, which disagree with the calendar in April,
June, September and November, and in February of a year like 2100. Its windows leave out the first
and the last second of the day. -/

namespace SmartPlat.VehicleDataAnalysis

open SmartPlat.Lib SmartPlat.MySql

variable {startTime endTime e : TimeYMD} {n : ℕ}

/-! ## The days the walk comes to -/

theorem getDaysByTime_pos (year month : ℕ) : 1 ≤ getDaysByTime year month := by
  unfold getDaysByTime
  split
  · decide
  · split <;> decide

theorem date_nextDay (t : TimeYMD) : (nextDay t).date = nextDate getDaysByTime t.date := by
  rw [nextDay, apply_ite TimeYMD.date, apply_ite TimeYMD.date]
  rfl

/-- The date of round `i`. -/
def walkDate (startTime : TimeYMD) (i : ℕ) : Date := (nextDate getDaysByTime)^[i] startTime.date

def dayStart (d : Date) : TimeYMD := ⟨d.year, d.month, d.day, 0, 0, 0⟩

def dayEnd (d : Date) : TimeYMD := ⟨d.year, d.month, d.day, 23, 59, 59⟩

/-- Round `i` of the loop is about the date of round `i`. -/
theorem perDay_eq {β : Type} (query : TimeYMD → TimeYMD → β) (n : ℕ) (startTime : TimeYMD) :
    perDay query n startTime =
      (List.range n).map fun i => query (dayStart (walkDate startTime i)) (dayEnd (walkDate startTime i)) := by
  induction n generalizing startTime with
  | zero => rfl
  | succ n ih =>
      rw [perDay, ih, List.range_succ_eq_map, List.map_cons, List.map_map]
      refine congrArg _ (List.map_congr_left fun i _ => ?_)
      simp only [Function.comp_apply, walkDate, date_nextDay, Function.iterate_succ_apply]
      rfl

/-- The walk never comes to a date twice. -/
theorem walkDate_injective (hmonth : 1 ≤ startTime.month ∧ startTime.month ≤ 12)
    (hday : 1 ≤ startTime.day) {i j : ℕ} (h : walkDate startTime i = walkDate startTime j) : i = j := by
  unfold walkDate at h
  by_cases hin : startTime.day ≤ getDaysByTime startTime.year startTime.month
  · have hstart : InTable getDaysByTime startTime.date := ⟨hmonth.1, hmonth.2, hday, hin⟩
    have hi := (iterate_nextDate getDaysByTime_pos hstart i).2
    have hj := (iterate_nextDate getDaysByTime_pos hstart j).2
    rw [h, hj] at hi
    omega
  · have hpast : getDaysByTime startTime.date.year startTime.date.month < startTime.date.day :=
      Nat.lt_of_not_le hin
    rw [iterate_nextDate_past hpast, iterate_nextDate_past hpast] at h
    have := congrArg Date.day h
    dsimp only at this
    omega

/-- The walk comes to the day of `e` in the round of this day. Either the start lies in its month as
    `GetDaysByTime` has it, the day of `e` does too, and as many days lie between them by these month
    lengths as by the calendar; or the walk has started past such an end of a month, and `e` lies in
    the same month. -/
def OnWalk (startTime e : TimeYMD) : Prop :=
  if startTime.day ≤ getDaysByTime startTime.year startTime.month then
    e.day ≤ getDaysByTime e.year e.month ∧
      dayCount getDaysByTime e.date + dayNumber startTime.year startTime.month startTime.day =
        dayCount getDaysByTime startTime.date + dayNumber e.year e.month e.day
  else e.year = startTime.year ∧ e.month = startTime.month

instance (startTime e : TimeYMD) : Decidable (OnWalk startTime e) :=
  inferInstanceAs
    (Decidable (if startTime.day ≤ getDaysByTime startTime.year startTime.month then _ else _))

theorem walkDate_eq_iff {i : ℕ}
    (hstart : ValidDate startTime.year startTime.month startTime.day) (he : e.Valid)
    (hday : dayNumber e.year e.month e.day =
      dayNumber startTime.year startTime.month startTime.day + i) :
    walkDate startTime i = e.date ↔ OnWalk startTime e := by
  obtain ⟨⟨hem, hem', hed, -⟩, -⟩ := he
  obtain ⟨hsm, hsm', hsd, -⟩ := hstart
  unfold walkDate OnWalk
  by_cases hin : startTime.day ≤ getDaysByTime startTime.year startTime.month
  · have hin' : InTable getDaysByTime startTime.date := ⟨hsm, hsm', hsd, hin⟩
    obtain ⟨hwalk, hcount⟩ := iterate_nextDate getDaysByTime_pos hin' i
    rw [if_pos hin]
    constructor
    · intro heq
      rw [heq] at hwalk hcount
      exact ⟨hwalk.2.2.2, by omega⟩
    · intro ⟨hed', hcounts⟩
      exact eq_of_dayCount_eq hwalk ⟨hem, hem', hed, hed'⟩ (by omega)
  · have hpast : getDaysByTime startTime.date.year startTime.date.month < startTime.date.day :=
      Nat.lt_of_not_le hin
    rw [if_neg hin, iterate_nextDate_past hpast]
    constructor
    · intro heq
      exact ⟨(congrArg Date.year heq).symm, (congrArg Date.month heq).symm⟩
    · intro ⟨hy, hm⟩
      rw [hy, hm, dayNumber, dayNumber] at hday
      simp only [TimeYMD.date, Date.mk.injEq]
      omega

/-! ## The window of a day -/

theorem inWindow_day_iff [Server] {d : Date} (he : e.Valid) :
    inWindow (dayStart d) (dayEnd d) e = true ↔
      d = e.date ∧ e.secOfDay ≠ 0 ∧ e.secOfDay ≠ 86399 := by
  have hsec := TimeYMD.secOfDay_lt he
  have hdate : inWindow (dayStart d) (dayEnd d) e = true → d = e.date := by
    intro h
    obtain ⟨-, hlt, hgt⟩ := of_decide_eq_true h
    have hboth : IsDatetime (dayStart d) ↔ IsDatetime (dayEnd d) := by
      simp [IsDatetime, dayStart, dayEnd]
    have hsame : (dayEnd d).date = (dayStart d).date := rfl
    exact (date_of_between hsame hboth (isDatetime_of_valid he) hgt hlt).symm
  have hfirst : (dayStart e.date).Valid := ⟨he.1, (by decide : 0 < 24 ∧ 0 < 60 ∧ 0 < 60)⟩
  have hlast : (dayEnd e.date).Valid := ⟨he.1, (by decide : 23 < 24 ∧ 59 < 60 ∧ 59 < 60)⟩
  have hwindow : inWindow (dayStart e.date) (dayEnd e.date) e = true ↔
      e.secOfDay ≠ 0 ∧ e.secOfDay ≠ 86399 := by
    rw [inWindow_of_valid hfirst hlast]
    simp only [dayStart, dayEnd, TimeYMD.datetime, TimeYMD.secOfDay, TimeYMD.date] at *
    omega
  constructor
  · intro h
    obtain rfl := hdate h
    exact ⟨rfl, hwindow.1 h⟩
  · rintro ⟨rfl, h⟩
    exact hwindow.2 h

/-! ## The buckets -/

section

variable {α : Type}

/-- An event is counted in a bucket when it alone makes the bucket `1`. The buckets are about the
    events of one kind, and `time` is when an event happens: every bucket holds the number of events
    counted in it, and an event of the kind that lies on day `i` of the `n` days is counted in bucket
    `i` and in no other. -/
structure DayBuckets (counts : List α → List ℕ) (kind : α → Bool) (time : α → TimeYMD)
    (startTime : TimeYMD) (n : ℕ) (t : List α) : Prop where
  total : ∀ j < n, (counts t)[j]? = some (t.countP fun e => (counts [e])[j]? = some 1)
  ownDay : ∀ e ∈ t, kind e → ∀ i < n,
    dayNumber (time e).year (time e).month (time e).day =
      dayNumber startTime.year startTime.month startTime.day + i →
    ∀ j < n, ((counts [e])[j]? = some 1 ↔ j = i)

/-- An event on one of the `n` days does not happen in the first or the last second of its day, and the
    walk comes to its day in time. -/
def Timely (startTime : TimeYMD) (n : ℕ) (e : TimeYMD) : Prop :=
  ∀ i < n, dayNumber e.year e.month e.day =
      dayNumber startTime.year startTime.month startTime.day + i →
    e.secOfDay ≠ 0 ∧ e.secOfDay ≠ 86399 ∧ OnWalk startTime e

instance (startTime : TimeYMD) (n : ℕ) (e : TimeYMD) : Decidable (Timely startTime n e) :=
  inferInstanceAs (Decidable (∀ i < n, _ → _ ∧ _ ∧ _))

/-- The event lies in the window of round `j`, and is of the kind. -/
def dayFalls [Server] (time : α → TimeYMD) (kind : α → Bool) (startTime : TimeYMD) (j : ℕ) (e : α) : Bool :=
  inWindow (dayStart (walkDate startTime j)) (dayEnd (walkDate startTime j)) (time e) && kind e

theorem dayFalls_all [Server] (time : α → TimeYMD) (startTime : TimeYMD) (j : ℕ) :
    dayFalls time (fun _ => true) startTime j = fun e =>
      inWindow (dayStart (walkDate startTime j)) (dayEnd (walkDate startTime j)) (time e) :=
  funext fun _ => Bool.and_true _

/-- The statement of a round counts the events of a kind in the window of its day. -/
theorem dayBuckets_iff_of_counts [Server] {counts : List α → List ℕ} {kind : α → Bool} {time : α → TimeYMD}
    (hcounts : counts = countsIn (dayFalls time kind startTime) (List.range n))
    (hstart : ValidDate startTime.year startTime.month startTime.day) {t : List α}
    (ht : ∀ e ∈ t, (time e).Valid) :
    DayBuckets counts kind time startTime n t ↔
      ∀ e ∈ t, kind e → Timely startTime n (time e) := by
  have hone : ∀ (e : α) (j : ℕ), j < n →
      ((counts [e])[j]? = some 1 ↔ dayFalls time kind startTime j e = true) := by
    intro e j hj
    rw [hcounts, ← CountedIn, countedIn_countsIn, List.getElem?_range hj]
    simp
  -- an event that lies on day `i` is counted where the walk comes to its day
  have hcounted : ∀ e ∈ t, kind e = true → ∀ i < n,
      dayNumber (time e).year (time e).month (time e).day =
        dayNumber startTime.year startTime.month startTime.day + i →
      ((∀ j < n, ((counts [e])[j]? = some 1 ↔ j = i)) ↔
        (time e).secOfDay ≠ 0 ∧ (time e).secOfDay ≠ 86399 ∧ OnWalk startTime (time e)) := by
    intro e he hkind i hi hday
    have hwalk := walkDate_eq_iff hstart (ht e he) hday
    constructor
    · intro hbuckets
      have hi' := (hone e i hi).1 ((hbuckets i hi).2 rfl)
      rw [dayFalls, hkind, Bool.and_true, inWindow_day_iff (ht e he)] at hi'
      exact ⟨hi'.2.1, hi'.2.2, hwalk.1 hi'.1⟩
    · rintro ⟨h0, h1, hon⟩ j hj
      rw [hone e j hj, dayFalls, hkind, Bool.and_true, inWindow_day_iff (ht e he)]
      constructor
      · rintro ⟨hdate, -⟩
        exact walkDate_injective ⟨hstart.1, hstart.2.1⟩ hstart.2.2.1 (hdate.trans (hwalk.2 hon).symm)
      · rintro rfl
        exact ⟨hwalk.2 hon, h0, h1⟩
  constructor
  · intro h e he hkind i hi hday
    exact (hcounted e he hkind i hi hday).1 (h.ownDay e he hkind i hi hday)
  · intro h
    refine ⟨fun j hj => ?_, fun e he hkind i hi hday => ?_⟩
    · have hlength : j < (List.range n).length := by rwa [List.length_range]
      rw [hcounts]
      exact countsEvents_countsIn.total j hlength
    · exact (hcounted e he hkind i hi hday).2 (h e he hkind i hi hday)

end

/-! ## The three analyses -/

section

variable (startTime endTime : TimeYMD) (n : ℕ)

/-- `PassingCount` of the buckets, as the frontage table changes. -/
def passingCounts [Server] (entrance : EntranceTable) (frontage : List FrontageRow) : List ℕ :=
  ((getOutboundVehiclesAnalysis frontage entrance startTime endTime n).elim [] Prod.fst).map
    ProgressRate.PassingCount

/-- `IncomingCount` of the buckets, as the entrance table changes. -/
def incomingCounts [Server] (frontage : List FrontageRow) (entrance : EntranceTable) : List ℕ :=
  ((getOutboundVehiclesAnalysis frontage entrance startTime endTime n).elim [] Prod.fst).map
    ProgressRate.IncomingCount

def refuelingTotals [Server] (entrance : EntranceTable) : List ℕ :=
  ((getRefuelingEfficiencyAnalysis entrance startTime endTime n).getD []).map Refueling.total

def alarmCounts [Server] (count : DeviceAlarmCount → ℕ) (alarms : List AlarmRow) : List ℕ :=
  (getAlarmPeriodAnalysis alarms startTime endTime n).map count

/-- The buckets of all three analyses tile the days. -/
structure AnalysesTile [Server] (frontage : List FrontageRow) (entrance : EntranceTable)
    (alarms : List AlarmRow) : Prop where
  passing : DayBuckets (passingCounts startTime endTime n entrance) (fun _ => true) FrontageRow.date
    startTime n frontage
  incoming : DayBuckets (incomingCounts startTime endTime n frontage) (fun _ => true)
    DeviceEntrance.vehicleStart startTime n entrance
  refueling : DayBuckets (refuelingTotals startTime endTime n) (fun _ => true)
    DeviceEntrance.vehicleStart startTime n entrance
  hightem : DayBuckets (alarmCounts startTime endTime n DeviceAlarmCount.hightemcount)
    (fun r => r.alarmtype = AlarmLevelSearchType.highTemp.alarmtype) AlarmRow.alarmdate startTime n
    alarms
  smoke : DayBuckets (alarmCounts startTime endTime n DeviceAlarmCount.smokecount)
    (fun r => r.alarmtype = AlarmLevelSearchType.smoking.alarmtype) AlarmRow.alarmdate startTime n
    alarms

variable {startTime endTime n}

/-- The start and the end lie on different days, so that the loops go from day to day. -/
def OtherDay (startTime endTime : TimeYMD) : Prop :=
  ¬ (startTime.year = endTime.year ∧ startTime.month = endTime.month ∧ startTime.day = endTime.day)

instance (startTime endTime : TimeYMD) : Decidable (OtherDay startTime endTime) :=
  inferInstanceAs (Decidable (¬ (_ ∧ _ ∧ _)))

theorem buckets_eq {β : Type} (query : TimeYMD → TimeYMD → β) (hdays : OtherDay startTime endTime) :
    buckets query startTime endTime n =
      (List.range n).map fun j =>
        query (dayStart (walkDate startTime j)) (dayEnd (walkDate startTime j)) := by
  rw [buckets, if_neg hdays, Int.toNat_natCast, perDay_eq]

theorem passingCounts_eq [Server] (hdays : OtherDay startTime endTime) (entrance : EntranceTable) :
    passingCounts startTime endTime n entrance =
      countsIn (dayFalls FrontageRow.date (fun _ => true) startTime) (List.range n) := by
  funext t
  rw [passingCounts, getOutboundVehiclesAnalysis, if_neg (Int.not_lt.2 (Int.natCast_nonneg n)),
    Option.elim_some, buckets_eq _ hdays, List.map_map]
  simp only [countsIn, dayFalls_all]
  rfl

theorem incomingCounts_eq [Server] (hdays : OtherDay startTime endTime) (frontage : List FrontageRow) :
    incomingCounts startTime endTime n frontage =
      countsIn (dayFalls DeviceEntrance.vehicleStart (fun _ => true) startTime) (List.range n) := by
  funext t
  rw [incomingCounts, getOutboundVehiclesAnalysis, if_neg (Int.not_lt.2 (Int.natCast_nonneg n)),
    Option.elim_some, buckets_eq _ hdays, List.map_map]
  simp only [countsIn, dayFalls_all]
  rfl

theorem refuelingTotals_eq [Server] (hdays : OtherDay startTime endTime) :
    refuelingTotals startTime endTime n =
      countsIn (dayFalls DeviceEntrance.vehicleStart (fun _ => true) startTime) (List.range n) := by
  funext t
  rw [refuelingTotals, getRefuelingEfficiencyAnalysis]
  by_cases hn : (n : ℤ) ≤ 0
  · obtain rfl : n = 0 := by omega
    rfl
  · rw [if_neg hn, Option.getD_some, buckets_eq _ hdays, List.map_map]
    simp only [countsIn, dayFalls_all]
    rfl

theorem hightemCounts_eq [Server] (hdays : OtherDay startTime endTime) :
    alarmCounts startTime endTime n DeviceAlarmCount.hightemcount =
      countsIn (dayFalls AlarmRow.alarmdate
        (fun r => r.alarmtype = AlarmLevelSearchType.highTemp.alarmtype) startTime) (List.range n) := by
  funext t
  rw [alarmCounts, getAlarmPeriodAnalysis, buckets_eq _ hdays, List.map_map]
  rfl

theorem smokeCounts_eq [Server] (hdays : OtherDay startTime endTime) :
    alarmCounts startTime endTime n DeviceAlarmCount.smokecount =
      countsIn (dayFalls AlarmRow.alarmdate
        (fun r => r.alarmtype = AlarmLevelSearchType.smoking.alarmtype) startTime) (List.range n) := by
  funext t
  rw [alarmCounts, getAlarmPeriodAnalysis, buckets_eq _ hdays, List.map_map]
  rfl

end

/-- An event on the day the walk comes to. -/
theorem timely_of_walkDate {i : ℕ} {e : TimeYMD}
    (hstart : ValidDate startTime.year startTime.month startTime.day) (he : e.Valid)
    (hday : dayNumber e.year e.month e.day =
      dayNumber startTime.year startTime.month startTime.day + i)
    (hwalk : walkDate startTime i = e.date) (hsec : e.secOfDay ≠ 0 ∧ e.secOfDay ≠ 86399) :
    Timely startTime n e :=
  fun _ _ _ => ⟨hsec.1, hsec.2, (walkDate_eq_iff hstart he hday).1 hwalk⟩

end SmartPlat.VehicleDataAnalysis
