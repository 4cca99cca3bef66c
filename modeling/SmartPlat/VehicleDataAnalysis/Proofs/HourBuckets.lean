import SmartPlat.VehicleDataAnalysis.Proofs.DayBuckets
import SmartPlat.JsonAPI.PagingHandlers
import SmartPlat.Lib.GroupBy

set_option autoImplicit false

/-! # The buckets of the hours

When start and end are one day, the three analyses walk from hour to hour, as often as their handlers say.
Two of the handlers turn a number of one day into 24 rounds; `FunGetAlarmPeriodAnalysis` makes room for 24
and passes the number on as it is. -/

namespace SmartPlat.VehicleDataAnalysis

open SmartPlat.Lib SmartPlat.JsonAPI SmartPlat.MySql

variable {d : Date} {number : ℤ} {e : TimeYMD} {j : ℕ} {frontage : List FrontageRow}
  {entrance : EntranceTable} {alarms : List AlarmRow}

/-! ## The windows of the hours -/

/-- The walk over a day is driven by the hour of the start. -/
def hourStart (d : Date) (hour : ℕ) : TimeYMD := ⟨d.year, d.month, d.day, hour, 0, 0⟩

def hourWindow (d : Date) (hour : ℕ) : TimeYMD × TimeYMD :=
  (hourStart d hour, if hour = 23 then dayEnd d else hourStart d (hour + 1))

theorem perHour_length {β : Type} (query : TimeYMD → TimeYMD → β) (n : ℕ) (startTime endTime : TimeYMD) :
    (perHour query n startTime endTime).length = n := by
  induction n generalizing startTime endTime with
  | zero => rfl
  | succ n ih => rw [perHour, List.length_cons, ih]

/-- From hour `h` on, as long as the day lasts. -/
theorem perHour_eq {β : Type} (query : TimeYMD → TimeYMD → β) (d : Date) {n h : ℕ} (hn : h + n ≤ 24) :
    perHour query n (hourStart d h) (hourStart d h) =
      (List.range n).map fun i => query (hourWindow d (h + i)).1 (hourWindow d (h + i)).2 := by
  induction n generalizing h with
  | zero => rfl
  | succ n ih =>
    rw [perHour, List.range_succ_eq_map, List.map_cons, List.map_map]
    have hnext : ({ hourStart d h with hour := (hourStart d h).hour + 1 } : TimeYMD)
        = hourStart d (h + 1) := rfl
    by_cases hlast : h = 23
    · -- the last hour ends the walk
      obtain rfl : n = 0 := by omega
      subst hlast
      rfl
    · have hend : (hourStart d h).hour ≠ 23 := hlast
      have hrest : (List.range n).map ((fun i => query (hourWindow d (h + i)).1
          (hourWindow d (h + i)).2) ∘ Nat.succ) =
            (List.range n).map fun i => query (hourWindow d (h + 1 + i)).1 (hourWindow d (h + 1 + i)).2 := by
        refine List.map_congr_left fun i _ => ?_
        rw [Function.comp_apply, Nat.succ_eq_add_one, Nat.add_assoc h 1 i, Nat.add_comm 1 i]
      rw [if_neg hend, hnext, ih (by omega), hrest, hourWindow,
        if_neg (show ¬ h + 0 = 23 from hlast)]
      rfl

/-- Neither on the hour nor in the last second of the day. -/
def InsideHour (e : TimeYMD) : Prop := (e.min ≠ 0 ∨ e.sec ≠ 0) ∧ e.secOfDay ≠ 86399

instance (e : TimeYMD) : Decidable (InsideHour e) := inferInstanceAs (Decidable (_ ∧ _))

/-- Where the hour ends, in seconds of the day. -/
def hourEnd (hour : ℕ) : ℕ := if hour = 23 then 86399 else (hour + 1) * 3600

theorem hourWindow_end (d : Date) (hour : ℕ) :
    (hourWindow d hour).2.datetime
      = ((d.year * 13 + d.month) * 32 + d.day) * 86400 + hourEnd hour := by
  rw [hourWindow, hourEnd]
  split
  · simp only [dayEnd, TimeYMD.datetime, TimeYMD.secOfDay]
  · simp only [hourStart, TimeYMD.datetime, TimeYMD.secOfDay, Nat.zero_mul, Nat.add_zero]

theorem hourWindow_valid {hour : ℕ} (hd : ValidDate d.year d.month d.day) (hhour : hour < 24) :
    (hourWindow d hour).1.Valid ∧ (hourWindow d hour).2.Valid := by
  have hzero : 0 < 60 := by decide
  refine ⟨⟨hd, hhour, hzero, hzero⟩, ?_⟩
  rw [hourWindow]
  split
  · exact ⟨hd, (by decide : 23 < 24), (by decide : 59 < 60), (by decide : 59 < 60)⟩
  · next hne => exact ⟨hd, (by omega : hour + 1 < 24), hzero, hzero⟩

theorem hourWindow_date (d : Date) (hour : ℕ) : (hourWindow d hour).2.date = d := by
  rw [hourWindow]
  split <;> rfl

theorem hourWindow_isDatetime {hour : ℕ} (d : Date) (hhour : hour < 24) :
    IsDatetime (hourWindow d hour).1 ↔ IsDatetime (hourWindow d hour).2 := by
  rw [hourWindow]
  split
  · simp [IsDatetime, hourStart, dayEnd, hhour]
  · simp [IsDatetime, hourStart, hhour, (by omega : hour + 1 < 24)]

theorem inWindow_hour_iff [Server] (he : e.Valid) (hj : j < 24) :
    inWindow (hourWindow d j).1 (hourWindow d j).2 e = true ↔
      e.date = d ∧ e.hour = j ∧ InsideHour e := by
  have hsec := TimeYMD.secOfDay_lt he
  have hdate : inWindow (hourWindow d j).1 (hourWindow d j).2 e = true → e.date = d := by
    intro h
    obtain ⟨-, hlt, hgt⟩ := of_decide_eq_true h
    exact date_of_between (hourWindow_date d j) (hourWindow_isDatetime d hj) (isDatetime_of_valid he)
      hgt hlt
  have hwindow : inWindow (hourWindow e.date j).1 (hourWindow e.date j).2 e = true ↔
      e.hour = j ∧ InsideHour e := by
    have hend : hourEnd j = if j = 23 then 86399 else (j + 1) * 3600 := rfl
    have hstart : (hourWindow e.date j).1.datetime
        = ((e.year * 13 + e.month) * 32 + e.day) * 86400 + (j * 3600 + 0 * 60 + 0) := rfl
    have hsod : e.secOfDay = e.hour * 3600 + e.min * 60 + e.sec := rfl
    obtain ⟨hfirst, hsecond⟩ := hourWindow_valid (d := e.date) he.1 hj
    obtain ⟨-, hh, hm, hs⟩ := he
    rw [inWindow_of_valid hfirst hsecond, hourWindow_end, hstart, TimeYMD.datetime, InsideHour]
    simp only [TimeYMD.date]
    constructor
    · rintro ⟨hlt, hgt⟩
      split at hend <;> omega
    · rintro ⟨rfl, hin, hlast⟩
      split at hend <;> omega
  constructor
  · intro h
    obtain rfl := hdate h
    exact ⟨rfl, hwindow.1 h⟩
  · rintro ⟨rfl, h⟩
    exact hwindow.2 h

/-! ## The reports of a day

A request carries dates without a time of day: the start and the end of one day are both its midnight. -/

section

variable (d : Date) (number : ℤ)

/-- `PassingCount` of the buckets, as the frontage table changes. -/
def dayPassing [Server] (entrance : EntranceTable) (frontage : List FrontageRow) : List ℕ :=
  ((getOutboundVehiclesAnalysis frontage entrance (dayStart d) (dayStart d) (periodCount number)).elim
    [] Prod.fst).map ProgressRate.PassingCount

/-- `IncomingCount` of the buckets, as the entrance table changes. -/
def dayIncoming [Server] (frontage : List FrontageRow) (entrance : EntranceTable) : List ℕ :=
  ((getOutboundVehiclesAnalysis frontage entrance (dayStart d) (dayStart d) (periodCount number)).elim
    [] Prod.fst).map ProgressRate.IncomingCount

def dayRefueling [Server] (entrance : EntranceTable) : List ℕ :=
  ((getRefuelingEfficiencyAnalysis entrance (dayStart d) (dayStart d) (periodCount number)).getD []).map
    Refueling.total

/-- The handler passes the number on without making 24 rounds of one day. -/
def dayAlarms [Server] (count : DeviceAlarmCount → ℕ) (alarms : List AlarmRow) : List ℕ :=
  (getAlarmPeriodAnalysis alarms (dayStart d) (dayStart d) number).map count

end

/-- The event lies in the window, and is of the kind. -/
def hourFalls [Server] {α : Type} (time : α → TimeYMD) (kind : α → Bool) (w : TimeYMD × TimeYMD)
    (e : α) : Bool :=
  inWindow w.1 w.2 (time e) && kind e

theorem hourFalls_all [Server] {α : Type} (time : α → TimeYMD) (w : TimeYMD × TimeYMD) :
    hourFalls time (fun _ => true) w = fun e => inWindow w.1 w.2 (time e) :=
  funext fun _ => Bool.and_true _

/-- The 24 windows of a day. -/
def hourWindows (d : Date) : List (TimeYMD × TimeYMD) := (List.range 24).map (hourWindow d)

/-- There are 24 buckets, and every event of the kind that lies on the day is counted in one of them. -/
structure HourBuckets {α : Type} (counts : List α → List ℕ) (kind : α → Bool) (time : α → TimeYMD)
    (d : Date) (t : List α) : Prop where
  total : CountsEvents counts 24 t
  onDay : ∀ e ∈ t, kind e = true → (time e).date = d → CountedOnce counts 24 e

theorem hourBuckets_iff [Server] {α : Type} {counts : List α → List ℕ} {kind : α → Bool}
    {time : α → TimeYMD}
    (hcounts : counts = countsIn (hourFalls time kind) (hourWindows d)) {t : List α}
    (ht : ∀ e ∈ t, (time e).Valid) :
    HourBuckets counts kind time d t ↔
      ∀ e ∈ t, kind e = true → (time e).date = d → InsideHour (time e) := by
  have hlength : (hourWindows d).length = 24 := by rw [hourWindows, List.length_map, List.length_range]
  have hcounted : ∀ e ∈ t, kind e = true → (time e).date = d → ∀ j < 24,
      (CountedIn counts e j ↔ (time e).hour = j ∧ InsideHour (time e)) := by
    intro e he hkind hd j hj
    rw [hcounts, countedIn_countsIn, hourWindows, List.getElem?_map, List.getElem?_range hj,
      ← and_iff_right hd (b := (time e).hour = j ∧ InsideHour (time e)), ← inWindow_hour_iff (ht e he) hj]
    simp [hourFalls, hkind]
  constructor
  · intro h e he hkind hd
    obtain ⟨j, ⟨hj, hin⟩, -⟩ := h.onDay e he hkind hd
    exact ((hcounted e he hkind hd j hj).1 hin).2
  · intro h
    refine ⟨?_, fun e he hkind hd => ?_⟩
    · rw [hcounts, ← hlength]
      exact countsEvents_countsIn
    · have hhour : (time e).hour < 24 := (ht e he).2.1
      refine ⟨(time e).hour, ⟨hhour, ?_⟩, fun j hj => ?_⟩
      · exact (hcounted e he hkind hd _ hhour).2 ⟨rfl, h e he hkind hd⟩
      · exact ((hcounted e he hkind hd j hj.1).1 hj.2).1.symm

/-- With 24 rounds the two loops are one over the windows of the day. -/
theorem buckets_day {β : Type} (query : TimeYMD → TimeYMD → β) (d : Date) :
    buckets query (dayStart d) (dayStart d) 24 = (hourWindows d).map fun w => query w.1 w.2 := by
  have hwalk := perHour_eq query d (n := 24) (h := 0) (by decide)
  rw [buckets, if_pos ⟨rfl, rfl, rfl⟩, hourWindows, List.map_map]
  refine hwalk.trans (List.map_congr_left fun i _ => ?_)
  rw [Nat.zero_add]
  rfl

theorem buckets_day_length {β : Type} (query : TimeYMD → TimeYMD → β) (d : Date) (count : ℤ) :
    (buckets query (dayStart d) (dayStart d) count).length = count.toNat := by
  rw [buckets, if_pos ⟨rfl, rfl, rfl⟩, perHour_length]

theorem dayPassing_eq [Server] (d : Date) (entrance : EntranceTable) :
    dayPassing d 24 entrance = countsIn (hourFalls FrontageRow.date fun _ => true) (hourWindows d) := by
  funext t
  have hcount : periodCount 24 = 24 := rfl
  rw [dayPassing, hcount, getOutboundVehiclesAnalysis, if_neg (by decide), Option.elim_some, buckets_day,
    List.map_map]
  simp only [countsIn, hourFalls_all]
  rfl

theorem dayIncoming_eq [Server] (d : Date) (frontage : List FrontageRow) :
    dayIncoming d 24 frontage =
      countsIn (hourFalls DeviceEntrance.vehicleStart fun _ => true) (hourWindows d) := by
  funext t
  have hcount : periodCount 24 = 24 := rfl
  rw [dayIncoming, hcount, getOutboundVehiclesAnalysis, if_neg (by decide), Option.elim_some, buckets_day,
    List.map_map]
  simp only [countsIn, hourFalls_all]
  rfl

theorem dayRefueling_eq [Server] (d : Date) :
    dayRefueling d 24 =
      countsIn (hourFalls DeviceEntrance.vehicleStart fun _ => true) (hourWindows d) := by
  funext t
  have hcount : periodCount 24 = 24 := rfl
  rw [dayRefueling, hcount, getRefuelingEfficiencyAnalysis, if_neg (by decide), Option.getD_some,
    buckets_day, List.map_map]
  simp only [countsIn, hourFalls_all]
  rfl

theorem dayAlarms_hightem_eq [Server] (d : Date) :
    dayAlarms d 24 DeviceAlarmCount.hightemcount =
      countsIn (hourFalls AlarmRow.alarmdate fun r => r.alarmtype = AlarmLevelSearchType.highTemp.alarmtype)
        (hourWindows d) := by
  funext t
  rw [dayAlarms, getAlarmPeriodAnalysis, buckets_day, List.map_map]
  rfl

theorem dayAlarms_smoke_eq [Server] (d : Date) :
    dayAlarms d 24 DeviceAlarmCount.smokecount =
      countsIn (hourFalls AlarmRow.alarmdate fun r => r.alarmtype = AlarmLevelSearchType.smoking.alarmtype)
        (hourWindows d) := by
  funext t
  rw [dayAlarms, getAlarmPeriodAnalysis, buckets_day, List.map_map]
  rfl

theorem dayAlarms_length [Server] (count : DeviceAlarmCount → ℕ) :
    (dayAlarms d number count alarms).length = number.toNat := by
  rw [dayAlarms, List.length_map, getAlarmPeriodAnalysis, buckets_day_length]

/-- The buckets of all three reports tile the day, and what happens at one time is counted in the same
    bucket of each. -/
structure HoursTile [Server] (d : Date) (number : ℤ) (frontage : List FrontageRow)
    (entrance : EntranceTable) (alarms : List AlarmRow) : Prop where
  passing : HourBuckets (dayPassing d number entrance) (fun _ => true) FrontageRow.date d frontage
  incoming : HourBuckets (dayIncoming d number frontage) (fun _ => true) DeviceEntrance.vehicleStart d
    entrance
  refueling : HourBuckets (dayRefueling d number) (fun _ => true) DeviceEntrance.vehicleStart d entrance
  hightem : HourBuckets (dayAlarms d number DeviceAlarmCount.hightemcount)
    (fun r => r.alarmtype = AlarmLevelSearchType.highTemp.alarmtype) AlarmRow.alarmdate d alarms
  smoke : HourBuckets (dayAlarms d number DeviceAlarmCount.smokecount)
    (fun r => r.alarmtype = AlarmLevelSearchType.smoking.alarmtype) AlarmRow.alarmdate d alarms
  sameHours : ∀ (f : FrontageRow) (r : DeviceEntrance) (a : AlarmRow), r.vehicleStart = f.date →
    a.alarmdate = f.date → a.alarmtype = AlarmLevelSearchType.highTemp.alarmtype → ∀ j,
      (CountedIn (dayPassing d number entrance) f j ↔ CountedIn (dayIncoming d number frontage) r j) ∧
      (CountedIn (dayPassing d number entrance) f j ↔ CountedIn (dayRefueling d number) r j) ∧
      (CountedIn (dayPassing d number entrance) f j ↔
        CountedIn (dayAlarms d number DeviceAlarmCount.hightemcount) a j)

theorem sameHours_day [Server] (d : Date) {f : FrontageRow} {r : DeviceEntrance} {a : AlarmRow}
    (hr : r.vehicleStart = f.date) (ha : a.alarmdate = f.date)
    (htype : a.alarmtype = AlarmLevelSearchType.highTemp.alarmtype) (j : ℕ) :
    (CountedIn (dayPassing d 24 entrance) f j ↔ CountedIn (dayIncoming d 24 frontage) r j) ∧
      (CountedIn (dayPassing d 24 entrance) f j ↔ CountedIn (dayRefueling d 24) r j) ∧
      (CountedIn (dayPassing d 24 entrance) f j ↔
        CountedIn (dayAlarms d 24 DeviceAlarmCount.hightemcount) a j) := by
  rw [dayPassing_eq, dayIncoming_eq, dayRefueling_eq, dayAlarms_hightem_eq]
  simp only [countedIn_countsIn, hourFalls, hr, ha, htype, decide_true, Bool.and_true, and_self]

/-- **The hours tile the day** exactly when the handlers are told of 24 hours and not of one day, and
    nothing on the day happens on the hour or in the last second. -/
theorem hoursTile_iff [Server] (d : Date) (number : ℤ) (hfrontage : ∀ r ∈ frontage, r.date.Valid)
    (hentrance : ∀ r ∈ entrance, r.vehicleStart.Valid) (halarms : ∀ r ∈ alarms, r.alarmdate.Valid) :
    HoursTile d number frontage entrance alarms ↔
      number = 24 ∧ (∀ r ∈ frontage, r.date.date = d → InsideHour r.date) ∧
        (∀ r ∈ entrance, r.vehicleStart.date = d → InsideHour r.vehicleStart) ∧
        ∀ r ∈ alarms, r.alarmtype = 1 ∨ r.alarmtype = 2 → r.alarmdate.date = d →
          InsideHour r.alarmdate := by
  have hpassing := hourBuckets_iff (dayPassing_eq d entrance) hfrontage
  have hincoming := hourBuckets_iff (dayIncoming_eq d frontage) hentrance
  have hrefueling := hourBuckets_iff (dayRefueling_eq d) hentrance
  have hhightem := hourBuckets_iff (dayAlarms_hightem_eq d) halarms
  have hsmoke := hourBuckets_iff (dayAlarms_smoke_eq d) halarms
  simp only [forall_const, decide_eq_true_iff] at hpassing hincoming hrefueling hhightem hsmoke
  constructor
  · rintro ⟨h1, h2, -, h3, h4, -⟩
    -- the report of the alarms has as many buckets as the number says
    have hlength := h3.total.length
    rw [dayAlarms_length] at hlength
    obtain rfl : number = 24 := by omega
    refine ⟨rfl, hpassing.1 h1, hincoming.1 h2, fun r hr => ?_⟩
    rintro (htype | htype)
    · exact hsmoke.1 h4 r hr htype
    · exact hhightem.1 h3 r hr htype
  · rintro ⟨rfl, h1, h2, h3⟩
    exact ⟨hpassing.2 h1, hincoming.2 h2, hrefueling.2 h2,
      hhightem.2 fun r hr htype => h3 r hr (.inr htype),
      hsmoke.2 fun r hr htype => h3 r hr (.inl htype),
      fun f r a hr ha htype j => sameHours_day d hr ha htype j⟩

/-- A day of May with an event of each table within the ninth hour. -/
theorem hoursTile_may :
    letI : Server := Server.textual
    HoursTile ⟨2024, 5, 31⟩ 24 [⟨"a", 0, 0, ⟨2024, 5, 31, 8, 30, 0⟩⟩]
    [sampleEntrance "b" ⟨2024, 5, 31, 8, 0, 1⟩] [⟨"c", 1, ⟨2024, 5, 31, 8, 59, 59⟩, ""⟩] :=
  letI : Server := Server.textual
  (hoursTile_iff ⟨2024, 5, 31⟩ 24 (by decide) (by decide) (by decide)).2
    (by decide)

/-- A day that is asked for as one day has one bucket of alarms and 24 of the others; and a car that passes
    on the hour is in no bucket, also where there are 24. -/
theorem hour_of_alarms_not_counted :
    letI : Server := Server.textual
    (¬ HoursTile ⟨2024, 5, 31⟩ 1 [] [] [⟨"c", 1, ⟨2024, 5, 31, 8, 30, 0⟩, ""⟩] ∧
      dayAlarms ⟨2024, 5, 31⟩ 1 DeviceAlarmCount.smokecount [⟨"c", 1, ⟨2024, 5, 31, 8, 30, 0⟩, ""⟩]
        = [0]) ∧
    ¬ HoursTile ⟨2024, 5, 31⟩ 24 [⟨"a", 0, 0, ⟨2024, 5, 31, 8, 0, 0⟩⟩] [] [] := by
  let _ : Server := Server.textual
  refine ⟨⟨fun h => ?_, by decide⟩, fun h => ?_⟩
  · exact absurd h.smoke.total.length (by decide)
  · obtain ⟨j, ⟨hj, hcounted⟩, -⟩ := h.passing.onDay _ List.mem_cons_self rfl rfl
    revert hcounted
    interval_cases j <;> decide

end SmartPlat.VehicleDataAnalysis
