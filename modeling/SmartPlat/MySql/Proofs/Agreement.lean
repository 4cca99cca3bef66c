import SmartPlat.Decimal
import SmartPlat.Lib.Blocks
import SmartPlat.MySql.Statements

set_option autoImplicit false

/-! # Passenger-flow reports that agree

The series of a day has an entry for each time of a row, not for each hour, and the series of days
leaves out the instant its window starts with. Wherever no two times share an hour, and nobody came in
at that instant, the reports agree; over no rows the totals are read from a missing column. -/

namespace SmartPlat.MySql

open SmartPlat.Lib SmartPlat.FuelQuantityAnalysis

variable {order : RowOrder} {t : PassengerFlowTable} {day startTime endTime : RequestTime}

/-! ## Columns -/

theorem columnInt_some {n : ℤ} (h : FitsInt n) : columnInt (some n) = .ok n := by
  rw [columnInt, if_pos h, atoi_decimalInt h.1 h.2]

theorem columnInt_some_eq_ok {n v : ℤ} : columnInt (some n) = .ok v ↔ FitsInt n ∧ v = n := by
  by_cases h : FitsInt n
  · rw [columnInt_some h, Except.ok.injEq, eq_comm, and_iff_right h]
  · rw [columnInt, if_neg h]
    exact iff_of_false (fun heq => nomatch heq) fun hfits => h hfits.1

@[simp]
theorem ends_columnInt_some {n : ℤ} {P : ℤ → Prop} :
    Ends (columnInt (some n)) P ↔ FitsInt n ∧ P n := by
  simp only [Ends, columnInt_some_eq_ok, and_assoc, exists_and_left, exists_eq_left]

theorem enterSum_of_mem {rows : PassengerFlowTable} {r : PassengerFlowRow} (h : r ∈ rows) :
    enterSum rows = some (rows.map fun r => r.enter).sum := by
  obtain ⟨s, rows, rfl⟩ := List.exists_cons_of_ne_nil (List.ne_nil_of_mem h)
  rfl

/-! ## Series -/

/-- The element that a row of a result fills. -/
def seriesEntry (row : SeriesRow) : LeaveAndEnterNum := ⟨row.count.getD 0, row.time⟩

theorem seriesRows_eq {rows : List SeriesRow} (hsome : ∀ row ∈ rows, row.count.isSome) :
    seriesRows rows = rows :=
  List.takeWhile_eq_self_iff.2 hsome

theorem ends_readSeries {rows : List SeriesRow} (hsome : ∀ row ∈ rows, row.count.isSome)
    {P : ℤ × List LeaveAndEnterNum → Prop} :
    Ends (readSeries rows) P ↔ (∀ row ∈ rows, FitsInt (row.count.getD 0)) ∧
      P (if rows = [] then keyFalse else rows.length, rows.map seriesEntry) := by
  have hrow : ∀ row ∈ rows, ∀ R : LeaveAndEnterNum → Prop,
      Ends ((columnInt row.count).map fun n => (⟨n, row.time⟩ : LeaveAndEnterNum)) R ↔
        FitsInt (row.count.getD 0) ∧ R (seriesEntry row) := by
    intro row hmem R
    obtain ⟨n, hn⟩ := Option.isSome_iff_exists.1 (hsome row hmem)
    simp [seriesEntry, hn]
  unfold readSeries
  split
  · next hnil => simp [hnil]
  · rw [seriesRows_eq hsome, ends_exceptMap, ends_mapM hrow, List.length_map]

section

variable {κ : Type} [DecidableEq κ] {key : TimeYMD → κ} {text : κ → SeriesTime}
  {rows : PassengerFlowTable}

/-- How many came in with the rows of a key. -/
def keySum (key : TimeYMD → κ) (rows : PassengerFlowTable) (k : κ) : ℤ :=
  ((rows.filter fun r => key r.time = k).map fun r => r.enter).sum

/-- The elements of a series. -/
def seriesOf (order : RowOrder) (key : TimeYMD → κ) (text : κ → SeriesTime)
    (rows : PassengerFlowTable) : List LeaveAndEnterNum :=
  (order.arrange (selectSeries key text rows)).map seriesEntry

theorem mem_selectSeries {row : SeriesRow} : row ∈ order.arrange (selectSeries key text rows) ↔
    ∃ r ∈ rows, row = ⟨some (keySum key rows (key r.time)), text (key r.time)⟩ := by
  rw [(order.perm _).mem_iff, selectSeries, List.mem_map]
  constructor
  · rintro ⟨g, hg, rfl⟩
    obtain ⟨r, hr⟩ := exists_mem_of_mem_groupBy hg
    have hrows := (mem_groupBy.1 hg).2
    obtain ⟨hmem, hk⟩ := List.mem_filter.1 (hrows ▸ hr)
    rw [decide_eq_true_iff] at hk
    exact ⟨r, hmem, by rw [enterSum_of_mem hr, hk, keySum, ← hrows]⟩
  · rintro ⟨r, hr, rfl⟩
    have hmem : r ∈ rows.filter fun s => key s.time = key r.time :=
      List.mem_filter.2 ⟨hr, decide_eq_true rfl⟩
    exact ⟨⟨key r.time, _⟩, mem_groupBy.2 ⟨⟨r, hr, rfl⟩, rfl⟩, by rw [enterSum_of_mem hmem]; rfl⟩

/-- No sum of a group is missing. -/
theorem isSome_count {row : SeriesRow} (h : row ∈ order.arrange (selectSeries key text rows)) :
    row.count.isSome := by
  obtain ⟨r, -, rfl⟩ := mem_selectSeries.1 h
  rfl

/-- Every key with rows is stored. -/
theorem length_seriesRows :
    (seriesRows (order.arrange (selectSeries key text rows))).length =
      (rows.map fun r => key r.time).toFinset.card := by
  rw [seriesRows_eq fun _ => isSome_count, (order.perm _).length_eq, selectSeries, List.length_map,
    length_groupBy]

theorem mem_seriesOf {e : LeaveAndEnterNum} : e ∈ seriesOf order key text rows ↔
    ∃ r ∈ rows, e = ⟨keySum key rows (key r.time), text (key r.time)⟩ := by
  simp only [seriesOf, List.mem_map, mem_selectSeries]
  constructor
  · rintro ⟨-, ⟨r, hr, rfl⟩, rfl⟩
    exact ⟨r, hr, rfl⟩
  · rintro ⟨r, hr, rfl⟩
    exact ⟨_, ⟨r, hr, rfl⟩, rfl⟩

theorem length_seriesOf :
    (seriesOf order key text rows).length = (rows.map fun r => key r.time).toFinset.card := by
  rw [seriesOf, List.length_map, ← length_seriesRows, seriesRows_eq fun _ => isSome_count]

/-- **A series is read** exactly where the sum of each of its groups is an `int`. -/
theorem ends_series {P : ℤ × List LeaveAndEnterNum → Prop} :
    Ends (readSeries (order.arrange (selectSeries key text rows))) P ↔
      (∀ r ∈ rows, FitsInt (keySum key rows (key r.time))) ∧
        P (if order.arrange (selectSeries key text rows) = [] then keyFalse
          else (order.arrange (selectSeries key text rows)).length, seriesOf order key text rows) := by
  rw [ends_readSeries fun _ => isSome_count, seriesOf]
  refine and_congr_left fun _ => ⟨fun h r hr => ?_, fun h row hrow => ?_⟩
  · exact h _ (mem_selectSeries.2 ⟨r, hr, rfl⟩)
  · obtain ⟨r, hr, rfl⟩ := mem_selectSeries.1 hrow
    exact h r hr

theorem mem_times {x : SeriesTime} :
    x ∈ (seriesOf order key text rows).map (fun e => e.time) ↔ ∃ r ∈ rows, text (key r.time) = x := by
  simp only [List.mem_map, mem_seriesOf]
  constructor
  · rintro ⟨-, ⟨r, hr, rfl⟩, rfl⟩
    exact ⟨r, hr, rfl⟩
  · rintro ⟨r, hr, rfl⟩
    exact ⟨_, ⟨r, hr, rfl⟩, rfl⟩

theorem seriesOf_perm : (seriesOf order key text rows).Perm
    ((groupBy (fun r => key r.time) rows).map fun g =>
      ⟨(g.2.map fun r => r.enter).sum, text g.1⟩) := by
  refine ((order.perm _).map seriesEntry).trans (List.Perm.of_eq ?_)
  rw [selectSeries, List.map_map]
  refine List.map_congr_left fun g hg => ?_
  obtain ⟨r, hr⟩ := exists_mem_of_mem_groupBy hg
  simp only [Function.comp_apply, seriesEntry, enterSum_of_mem hr, Option.getD_some]

/-- No time appears twice where the text tells the keys apart. -/
theorem nodup_times : ((seriesOf order key text rows).map fun e => e.time).Nodup ↔
    ∀ r ∈ rows, ∀ s ∈ rows, text (key r.time) = text (key s.time) → key r.time = key s.time := by
  rw [(seriesOf_perm.map _).nodup_iff, List.map_map]
  exact nodup_map_groupBy

theorem sum_seriesOf : ((seriesOf order key text rows).map fun e => e.dwEnterNum).sum =
    (rows.map fun r => r.enter).sum := by
  rw [(seriesOf_perm.map _).sum_eq, List.map_map]
  exact sum_groupBy fun r : PassengerFlowRow => r.enter

end

/-! ## Days and windows -/

/-- The first second of a date. -/
def midnight (d : Date) : TimeYMD := ⟨d.year, d.month, d.day, 0, 0, 0⟩

def lastSecond (d : Date) : TimeYMD := ⟨d.year, d.month, d.day, 23, 59, 59⟩

/-- All of the day lies between the two times of a request. -/
def DayInside (startTime endTime : RequestTime) (d : Date) : Prop :=
  ∃ s e, startTime.literal = some s ∧ endTime.literal = some e ∧
    s.datetime ≤ (midnight d).datetime ∧ (lastSecond d).datetime ≤ e.datetime

theorem mem_rowsOn {r : PassengerFlowRow} :
    r ∈ rowsOn t day ↔ r ∈ t ∧ (r.time.year : ℤ) = day.year ∧ (r.time.month : ℤ) = day.month ∧
      (r.time.day : ℤ) = day.day := by
  simp only [rowsOn, RequestTime.onDay, List.mem_filter, decide_eq_true_iff]

theorem rowsOn_midnight (t : PassengerFlowTable) (d : Date) :
    rowsOn t (ofTimeYMD (midnight d)) = t.filter fun r => r.time.date = d := by
  refine List.filter_congr fun r _ => decide_eq_decide.2 ?_
  obtain ⟨y, m, n⟩ := d
  simp only [ofTimeYMD, midnight, TimeYMD.date, Date.mk.injEq, Int.ofNat_inj]

/-- The rows of a day differ in the time of day only. -/
theorem date_eq_of_mem_rowsOn {r s : PassengerFlowRow} (hr : r ∈ rowsOn t day)
    (hs : s ∈ rowsOn t day) : r.time.date = s.time.date := by
  obtain ⟨-, hy, hm, hd⟩ := mem_rowsOn.1 hr
  obtain ⟨-, hy', hm', hd'⟩ := mem_rowsOn.1 hs
  simp only [TimeYMD.date, Date.mk.injEq]
  omega

theorem valid_of_literal {time : TimeYMD} (h : startTime.literal = some time) : time.Valid := by
  unfold RequestTime.literal at h
  simp only [Option.ite_none_right_eq_some, Option.some.injEq] at h
  obtain ⟨⟨-, hvalid, -⟩, rfl⟩ := h
  exact hvalid

/-- A column tells its times apart. -/
theorem eq_of_datetime_eq {a b : TimeYMD} (ha : IsDatetime a) (hb : IsDatetime b)
    (h : a.datetime = b.datetime) : a = b := by
  obtain ⟨y, m, d, hh, mm, ss⟩ := a
  obtain ⟨y', m', d', hh', mm', ss'⟩ := b
  simp only [IsDatetime] at ha hb
  simp only [TimeYMD.datetime, TimeYMD.secOfDay] at h
  simp only [TimeYMD.mk.injEq]
  omega

theorem inDays_of_literal [Server] {s e time : TimeYMD} (hs : startTime.literal = some s)
    (he : endTime.literal = some e) :
    inDays startTime endTime time = true ↔ s.datetime < time.datetime ∧ time.datetime ≤ e.datetime := by
  simp [inDays, Refused, RequestTime.before, hs, he]

/-- **Of a day inside the window only the instant it starts with is left out.** -/
theorem inDays_iff_ne [Server] {s time : TimeYMD} (hs : startTime.literal = some s)
    (hinside : DayInside startTime endTime time.date) (htime : IsDatetime time) :
    inDays startTime endTime time = true ↔ time ≠ s := by
  obtain ⟨s', e, hs', he, hle, hge⟩ := hinside
  obtain rfl := Option.some.inj (hs.symm.trans hs')
  have hfirst : s.datetime ≤ time.datetime := by
    refine Nat.le_trans hle ?_
    simp only [midnight, TimeYMD.date, TimeYMD.datetime, TimeYMD.secOfDay]
    omega
  have hlast : time.datetime ≤ e.datetime := by
    refine Nat.le_trans ?_ hge
    obtain ⟨-, -, hh, hm, hsec⟩ := htime
    simp only [lastSecond, TimeYMD.date, TimeYMD.datetime, TimeYMD.secOfDay]
    omega
  rw [inDays_of_literal hs he]
  constructor
  · rintro ⟨hlt, -⟩ rfl
    exact Nat.lt_irrefl _ hlt
  · intro hne
    refine ⟨Nat.lt_of_le_of_ne hfirst fun heq => hne ?_, hlast⟩
    exact eq_of_datetime_eq htime (isDatetime_of_valid (valid_of_literal hs)) heq.symm

theorem mem_rowsIn [Server] {r : PassengerFlowRow} :
    r ∈ rowsIn t startTime endTime ↔ r ∈ t ∧ inDays startTime endTime r.time = true :=
  List.mem_filter

/-- What the series of days is short of. -/
theorem sum_day [Server] {s : TimeYMD} {d : Date} (hs : startTime.literal = some s)
    (hinside : DayInside startTime endTime d) :
    ((t.filter fun r => r.time.date = d).map fun r => r.enter).sum =
      keySum TimeYMD.date (rowsIn t startTime endTime) d +
        ((t.filter fun r => r.time = s ∧ r.time.date = d).map fun r => r.enter).sum := by
  have hin : (t.filter fun r => r.time.date = d).filter
      (fun r => decide (inDays startTime endTime r.time = true)) =
        (rowsIn t startTime endTime).filter fun r => r.time.date = d := by
    simp only [rowsIn, List.filter_filter, Bool.decide_eq_true, Bool.and_comm]
  have hout : (t.filter fun r => r.time.date = d).filter
      (fun r => decide (¬ inDays startTime endTime r.time = true)) =
        t.filter fun r => r.time = s ∧ r.time.date = d := by
    rw [List.filter_filter]
    refine List.filter_congr fun r _ => ?_
    rw [← Bool.decide_and, decide_eq_decide]
    refine and_congr_left fun hd => ?_
    rw [inDays_iff_ne hs (hd ▸ hinside) r.isDatetime, not_not]
  rw [keySum, ← hin, ← hout]
  exact (List.sum_map_filter_add_sum_map_filter_not
    (fun r : PassengerFlowRow => inDays startTime endTime r.time = true) _ _).symm

/-! ## The totals -/

theorem getVolumeOfCommutersNum_iff {n : ℤ} : getVolumeOfCommutersNum t day = .ok (keyTrue, n) ↔
    rowsOn t day ≠ [] ∧ FitsInt n ∧ n = ((rowsOn t day).map fun r => r.enter).sum := by
  simp only [getVolumeOfCommutersNum, mySqlCtrlGetPassengerFlowListSum, map_eq_ok_iff, Prod.mk.injEq,
    true_and, exists_eq_right]
  cases hrows : rowsOn t day with
  | nil => exact iff_of_false (fun h => nomatch h) fun h => h.1 rfl
  | cons r rows =>
      rw [enterSum_of_mem List.mem_cons_self, columnInt_some_eq_ok]
      constructor
      · rintro ⟨hfits, rfl⟩
        exact ⟨List.cons_ne_nil _ _, hfits, rfl⟩
      · rintro ⟨-, hfits, rfl⟩
        exact ⟨hfits, rfl⟩

theorem ends_line_hour [Server] {P : ℤ × ℤ × List LeaveAndEnterNum → Prop} :
    Ends (getVolumeOfCommutersOfLine order t day endTime 1) P ↔
      Ends (readSeries (order.arrange (selectLineOfHour t day))) fun r => P (keyTrue, r) := by
  rw [getVolumeOfCommutersOfLine, if_pos rfl, ends_exceptMap]
  rfl

/-- A window that is refused has no rows. -/
theorem rowsIn_eq_nil [Server] (h : Refused startTime endTime) : rowsIn t startTime endTime = [] :=
  List.filter_eq_nil_iff.2 fun _ _ hin => (of_decide_eq_true hin).1 h

theorem ends_line_day [Server] {num : ℤ} (hnum : num ≠ 1) {P : List LeaveAndEnterNum → Prop} :
    Ends (getVolumeOfCommutersOfLine order t startTime endTime num) (fun r => P r.2.2) ↔
      (∀ r ∈ rowsIn t startTime endTime,
        FitsInt (keySum TimeYMD.date (rowsIn t startTime endTime) r.time.date)) ∧
        P (seriesOf order TimeYMD.date dayText (rowsIn t startTime endTime)) := by
  rw [getVolumeOfCommutersOfLine, if_neg hnum, ends_exceptMap, mySqlCtrlGetPassengerFlowLineOfDay]
  split
  · next h =>
      have hnil : seriesOf order TimeYMD.date dayText (rowsIn t startTime endTime) = [] := by
        refine List.eq_nil_iff_forall_not_mem.2 fun e he => ?_
        obtain ⟨r, hr, -⟩ := mem_seriesOf.1 he
        rw [rowsIn_eq_nil h] at hr
        exact List.not_mem_nil hr
      rw [hnil, rowsIn_eq_nil h, ends_ok]
      exact (and_iff_right fun r hr => absurd hr List.not_mem_nil).symm
  · exact ends_series

/-! ## Agreement -/

/-- One entry for each hour of the day that has rows; together they make the total of the day. -/
structure HourSeries (t : PassengerFlowTable) (day : RequestTime) (series : List LeaveAndEnterNum) :
    Prop where
  once : (series.map fun e => e.time).Nodup
  hours : ∀ x, x ∈ (series.map fun e => e.time) ↔ ∃ r ∈ rowsOn t day, hourText r.time = x
  total : getVolumeOfCommutersNum t day = .ok (keyTrue, (series.map fun e => e.dwEnterNum).sum)

/-- One entry for each day; of a day inside the window that has rows it is the total. -/
structure DaySeries (t : PassengerFlowTable) (startTime endTime : RequestTime)
    (series : List LeaveAndEnterNum) : Prop where
  once : (series.map fun e => e.time).Nodup
  days : ∀ x ∈ (series.map fun e => e.time), ∃ r ∈ t, dayText r.time.date = x
  totals : ∀ d, DayInside startTime endTime d → (∃ r ∈ t, r.time.date = d) →
    ∃ e ∈ series, e.time = dayText d ∧
      getVolumeOfCommutersNum t (ofTimeYMD (midnight d)) = .ok (keyTrue, e.dwEnterNum)

/-- What nobody counts at the start of the window: the rows of that instant come to nothing, and have
    others of their day beside them. -/
def StartCounts (t : PassengerFlowTable) (startTime endTime : RequestTime) : Prop :=
  ∀ s, startTime.literal = some s → DayInside startTime endTime s.date →
    ((t.filter fun r => r.time = s).map fun r => r.enter).sum = 0 ∧
      ((∃ r ∈ t, r.time = s) → ∃ r ∈ t, r.time.date = s.date ∧ r.time ≠ s)

theorem hourSeries_iff : HourSeries t day (seriesOf order id hourText (rowsOn t day)) ↔
    rowsOn t day ≠ [] ∧ FitsInt ((rowsOn t day).map fun r => r.enter).sum ∧
      ∀ r ∈ rowsOn t day, ∀ s ∈ rowsOn t day, r.time.hour = s.time.hour → r.time = s.time := by
  have hhour : ∀ r ∈ rowsOn t day, ∀ s ∈ rowsOn t day,
      hourText (id r.time) = hourText (id s.time) ↔ r.time.hour = s.time.hour := by
    intro r hr s hs
    simp only [hourText, id, SeriesTime.mk.injEq, Option.some.injEq, date_eq_of_mem_rowsOn hr hs,
      true_and]
  constructor
  · intro ⟨honce, _, htotal⟩
    rw [sum_seriesOf] at htotal
    obtain ⟨hrows, hfits, -⟩ := getVolumeOfCommutersNum_iff.1 htotal
    refine ⟨hrows, hfits, fun r hr s hs heq => ?_⟩
    exact nodup_times.1 honce r hr s hs ((hhour r hr s hs).2 heq)
  · intro ⟨hrows, hfits, hone⟩
    refine ⟨nodup_times.2 fun r hr s hs heq => ?_, fun x => mem_times, ?_⟩
    · exact hone r hr s hs ((hhour r hr s hs).1 heq)
    · rw [sum_seriesOf]
      exact getVolumeOfCommutersNum_iff.2 ⟨hrows, hfits, rfl⟩

/-- The rows of a day that are in the window. -/
theorem exists_rowsIn_iff [Server] {s : TimeYMD} {d : Date} (hs : startTime.literal = some s)
    (hinside : DayInside startTime endTime d) :
    (∃ r ∈ rowsIn t startTime endTime, r.time.date = d) ↔ ∃ r ∈ t, r.time.date = d ∧ r.time ≠ s := by
  constructor
  · rintro ⟨r, hr, rfl⟩
    obtain ⟨hmem, hin⟩ := mem_rowsIn.1 hr
    exact ⟨r, hmem, rfl, (inDays_iff_ne hs hinside r.isDatetime).1 hin⟩
  · rintro ⟨r, hr, rfl, hne⟩
    exact ⟨r, mem_rowsIn.2 ⟨hr, (inDays_iff_ne hs hinside r.isDatetime).2 hne⟩, rfl⟩

/-- An entry of a day that is the total: the window misses nothing of the day. -/
theorem dayTotal_iff [Server] {s : TimeYMD} {d : Date} (hs : startTime.literal = some s)
    (hinside : DayInside startTime endTime d)
    (hfits : ∀ r ∈ rowsIn t startTime endTime,
      FitsInt (keySum TimeYMD.date (rowsIn t startTime endTime) r.time.date)) :
    (∃ e ∈ seriesOf order TimeYMD.date dayText (rowsIn t startTime endTime), e.time = dayText d ∧
      getVolumeOfCommutersNum t (ofTimeYMD (midnight d)) = .ok (keyTrue, e.dwEnterNum)) ↔
    (∃ r ∈ t, r.time.date = d ∧ r.time ≠ s) ∧
      ((t.filter fun r => r.time = s ∧ r.time.date = d).map fun r => r.enter).sum = 0 := by
  have hsum := sum_day (t := t) hs hinside
  rw [← exists_rowsIn_iff hs hinside]
  constructor
  · rintro ⟨e, he, htime, htotal⟩
    obtain ⟨r, hr, rfl⟩ := mem_seriesOf.1 he
    obtain rfl : r.time.date = d := congrArg SeriesTime.date htime
    obtain ⟨-, -, heq⟩ := getVolumeOfCommutersNum_iff.1 htotal
    rw [rowsOn_midnight, hsum] at heq
    exact ⟨⟨r, hr, rfl⟩, left_eq_add.1 heq⟩
  · rintro ⟨⟨r, hr, rfl⟩, hzero⟩
    refine ⟨_, mem_seriesOf.2 ⟨r, hr, rfl⟩, rfl, getVolumeOfCommutersNum_iff.2 ?_⟩
    rw [rowsOn_midnight, hsum, hzero, Int.add_zero]
    have hmem : r ∈ t.filter fun s => s.time.date = r.time.date :=
      List.mem_filter.2 ⟨(mem_rowsIn.1 hr).1, decide_eq_true rfl⟩
    exact ⟨List.ne_nil_of_mem hmem, hfits r hr, rfl⟩

theorem daySeries_iff [Server] (hfits : ∀ r ∈ rowsIn t startTime endTime,
      FitsInt (keySum TimeYMD.date (rowsIn t startTime endTime) r.time.date)) :
    DaySeries t startTime endTime
        (seriesOf order TimeYMD.date dayText (rowsIn t startTime endTime)) ↔
      StartCounts t startTime endTime := by
  constructor
  · intro h s hs hinside
    have hstart : (t.filter fun r => r.time = s) =
        t.filter fun r => r.time = s ∧ r.time.date = s.date := by
      refine List.filter_congr fun r _ => decide_eq_decide.2 ?_
      exact (and_iff_left_of_imp fun heq => congrArg TimeYMD.date heq).symm
    by_cases hrow : ∃ r ∈ t, r.time = s
    · obtain ⟨r, hr, heq⟩ := hrow
      have htotal := h.totals s.date hinside ⟨r, hr, congrArg TimeYMD.date heq⟩
      obtain ⟨hother, hzero⟩ := (dayTotal_iff hs hinside hfits).1 htotal
      exact ⟨hstart ▸ hzero, fun _ => hother⟩
    · have hnil : (t.filter fun r => r.time = s) = [] :=
        List.filter_eq_nil_iff.2 fun r hr heq => hrow ⟨r, hr, decide_eq_true_iff.1 heq⟩
      exact ⟨by rw [hnil]; rfl, fun hex => absurd hex hrow⟩
  · intro h
    refine ⟨nodup_times.2 fun r _ s _ heq => congrArg SeriesTime.date heq, fun x hx => ?_, ?_⟩
    · obtain ⟨r, hr, rfl⟩ := mem_times.1 hx
      exact ⟨r, (mem_rowsIn.1 hr).1, rfl⟩
    · rintro d hinside ⟨r, hr, rfl⟩
      have ⟨s, _, hs, _⟩ := hinside
      rw [dayTotal_iff hs hinside hfits]
      by_cases hd : r.time.date = s.date
      · obtain ⟨hzero, hother⟩ := h s hs (hd ▸ hinside)
        have hstart : (t.filter fun q => q.time = s ∧ q.time.date = r.time.date) =
            t.filter fun q => q.time = s := by
          refine List.filter_congr fun q _ => decide_eq_decide.2 ?_
          exact and_iff_left_of_imp fun heq => (congrArg TimeYMD.date heq).trans hd.symm
        refine ⟨?_, hstart ▸ hzero⟩
        by_cases heq : r.time = s
        · exact hd ▸ hother ⟨r, hr, heq⟩
        · exact ⟨r, hr, rfl, heq⟩
      · have hnil : (t.filter fun q => q.time = s ∧ q.time.date = r.time.date) = [] := by
          refine List.filter_eq_nil_iff.2 fun q _ hq => ?_
          obtain ⟨rfl, hdate⟩ := decide_eq_true_iff.1 hq
          exact hd hdate.symm
        exact ⟨⟨r, hr, rfl, fun heq => hd (congrArg TimeYMD.date heq)⟩, by rw [hnil]; rfl⟩

variable {F : Type} {sumLPM : List F → ℤ} {fuel : FuelTable F} {month : RequestTime}
  {findType : FuelQuantityType}

/-- What the reports on a day, on a window of days and on the fuel of a month should say. -/
structure ReportsAgree [Server] (order : RowOrder) (sumLPM : List F → ℤ) (t : PassengerFlowTable)
    (fuel : FuelTable F) (day startTime endTime month : RequestTime) (findType : FuelQuantityType) :
    Prop where
  hours : Ends (getVolumeOfCommutersOfLine order t day endTime 1) fun r => HourSeries t day r.2.2
  days : ∀ num, num ≠ 1 → Ends (getVolumeOfCommutersOfLine order t startTime endTime num) fun r =>
    DaySeries t startTime endTime r.2.2
  emptyDay : rowsOn t day = [] → getVolumeOfCommutersNum t day = .ok (keyTrue, 0)
  emptyMonth : fuelRows fuel month findType = [] →
    mysqlGetFuelQuantityByType fuel month sumLPM findType = .ok 0

/-- When they do. -/
structure CanAgree [Server] (t : PassengerFlowTable) (fuel : FuelTable F)
    (day startTime endTime month : RequestTime) (findType : FuelQuantityType) : Prop where
  dayHasRows : rowsOn t day ≠ []
  monthHasRows : fuelRows fuel month findType ≠ []
  oneTime : ∀ r ∈ rowsOn t day, ∀ s ∈ rowsOn t day, r.time.hour = s.time.hour → r.time = s.time
  startCounts : StartCounts t startTime endTime
  dayFits : FitsInt ((rowsOn t day).map fun r => r.enter).sum
  timesFit : ∀ r ∈ rowsOn t day, FitsInt (keySum id (rowsOn t day) r.time)
  daysFit : ∀ r ∈ rowsIn t startTime endTime,
    FitsInt (keySum TimeYMD.date (rowsIn t startTime endTime) r.time.date)

/-- **The reports agree** exactly where the day and the month have rows, no hour of the day has two
    times with rows, the first instant of the window counts for nothing, and the sums are `int`s. -/
theorem reportsAgree_iff [Server] : ReportsAgree order sumLPM t fuel day startTime endTime month findType ↔
    CanAgree t fuel day startTime endTime month findType := by
  have hhours : Ends (getVolumeOfCommutersOfLine order t day endTime 1)
      (fun r => HourSeries t day r.2.2) ↔
        (∀ r ∈ rowsOn t day, FitsInt (keySum id (rowsOn t day) r.time)) ∧
          HourSeries t day (seriesOf order id hourText (rowsOn t day)) :=
    ends_line_hour.trans ends_series
  constructor
  · intro h
    obtain ⟨htimes, hhour⟩ := hhours.1 h.hours
    obtain ⟨hrows, hfits, hone⟩ := hourSeries_iff.1 hhour
    obtain ⟨hdays, hday⟩ := (ends_line_day (by decide : (0 : ℤ) ≠ 1)).1 (h.days 0 (by decide))
    refine ⟨hrows, fun hnil => ?_, hone, (daySeries_iff hdays).1 hday, hfits, htimes, hdays⟩
    have hzero := h.emptyMonth hnil
    rw [mysqlGetFuelQuantityByType, hnil] at hzero
    exact nomatch hzero
  · intro h
    refine ⟨hhours.2 ⟨h.timesFit, hourSeries_iff.2 ⟨h.dayHasRows, h.dayFits, h.oneTime⟩⟩,
      fun num hnum => (ends_line_day hnum).2 ⟨h.daysFit, (daySeries_iff h.daysFit).2 h.startCounts⟩,
      fun hnil => absurd hnil h.dayHasRows, fun hnil => absurd hnil h.monthHasRows⟩

/-- One customer on the first of May 2024. -/
def sampleFlow (id : String) (hour min : ℕ) (h : hour < 24 ∧ min < 60) : PassengerFlowRow :=
  ⟨id, 1, ⟨2024, 5, 1, hour, min, 0⟩,
    ⟨(by decide : 5 ≤ 12), (by decide : 1 ≤ 31), h.1, h.2, (by decide : 0 < 60)⟩⟩

/-- Two customers in one hour make two entries for it; a day without customers has no total. -/
theorem hour_listed_twice :
    letI : Server := Server.textual
    getVolumeOfCommutersOfLine .asFound [sampleFlow "A" 10 5 (by decide), sampleFlow "B" 10 40 (by decide)]
        ⟨2024, 5, 1, 0, 0, 0⟩ ⟨2024, 5, 1, 23, 59, 59⟩ 1 =
      .ok (keyTrue, 2, [⟨1, ⟨⟨2024, 5, 1⟩, some 10⟩⟩, ⟨1, ⟨⟨2024, 5, 1⟩, some 10⟩⟩]) ∧
      getVolumeOfCommutersNum [] ⟨2024, 5, 1, 0, 0, 0⟩ = .error .missing ∧
      ¬ ReportsAgree .asFound (fun _ : List Unit => 20)
        [sampleFlow "A" 10 5 (by decide), sampleFlow "B" 10 40 (by decide)]
        [⟨⟨[], by decide⟩, 92, (), 1, 2024, 5, 1, 0, 0, 0⟩]
        ⟨2024, 5, 1, 0, 0, 0⟩ ⟨2024, 5, 1, 0, 0, 0⟩ ⟨2024, 5, 1, 23, 59, 59⟩ ⟨2024, 5, 0, 0, 0, 0⟩
        .FillQuantityType_92 := by
  let _ : Server := Server.textual
  have hline : getVolumeOfCommutersOfLine .asFound
      [sampleFlow "A" 10 5 (by decide), sampleFlow "B" 10 40 (by decide)]
      ⟨2024, 5, 1, 0, 0, 0⟩ ⟨2024, 5, 1, 23, 59, 59⟩ 1 =
        .ok (keyTrue, 2, [⟨1, ⟨⟨2024, 5, 1⟩, some 10⟩⟩, ⟨1, ⟨⟨2024, 5, 1⟩, some 10⟩⟩]) := by
    decide
  refine ⟨hline, rfl, fun h => ?_⟩
  have hhours := h.hours
  rw [hline, ends_ok] at hhours
  exact absurd hhours.once (by decide)

end SmartPlat.MySql
