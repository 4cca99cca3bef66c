import SmartPlat.VehicleDataAnalysis.Proofs.Pages

set_option autoImplicit false

/-! # Combinations of filters

Each combination has a text of its own. The one of vehicle type and text asks for the area instead of the
text, two do not parse, the combinations without a text of their own ask for the window alone, and the
losses of a month are the plates of the month before. -/

namespace SmartPlat.VehicleDataAnalysis

open SmartPlat.Lib SmartPlat.MySql

variable {t : EntranceTable} {startTime endTime endDate : TimeYMD} {info : VehicleSearchInfo}
  {r : DeviceEntrance}

/-! ## What the filters ask for -/

/-- The plate holds the text. -/
def FuzzyStr.In (f : FuzzyStr) (plateNo : String) : Prop := f.text.toList <:+: plateNo.toList

instance (f : FuzzyStr) (plateNo : String) : Decidable (f.In plateNo) :=
  inferInstanceAs (Decidable (_ <:+: _))

/-- The plate has a row in the month. -/
def Seen (t : EntranceTable) (plateNo : String) (m : YearMonth) : Prop :=
  ∃ s ∈ t, monthOf s.vehicleStart = m ∧ s.plateNo = plateNo

instance (t : EntranceTable) (plateNo : String) (m : YearMonth) : Decidable (Seen t plateNo m) :=
  inferInstanceAs (Decidable (∃ s ∈ t, _ ∧ _))

/-- A row satisfies all the filters that are selected. A filter of months takes the place of the window:
    an increment is a row in the month of the end whose plate is not seen in the month before the start,
    a loss the other way round. -/
structure Satisfies [Server] (t : EntranceTable) (startTime endTime : TimeYMD) (info : VehicleSearchInfo)
    (r : DeviceEntrance) : Prop where
  terr : info.type.terr = true → r.vehicleTerr = info.vehicleTerr
  vehicle : info.type.vehicle = true → r.vehicleType = info.vehicleType
  fuzzy : info.type.fuzzy = true → info.fuzzyStr.In r.plateNo
  increment : info.type.increment = true →
    monthOf r.vehicleStart = monthOf endTime ∧ ¬ Seen t r.plateNo (monthBefore startTime)
  losses : info.type.losses = true →
    monthOf r.vehicleStart = monthBefore startTime ∧ ¬ Seen t r.plateNo (monthOf endTime)
  window : info.type.increment = false → info.type.losses = false →
    inWindow startTime endTime r.vehicleStart = true

theorem satisfies_iff [Server] : Satisfies t startTime endTime info r ↔
    (info.type.terr = true → r.vehicleTerr = info.vehicleTerr) ∧
      (info.type.vehicle = true → r.vehicleType = info.vehicleType) ∧
      (info.type.fuzzy = true → info.fuzzyStr.In r.plateNo) ∧
      (info.type.increment = true →
        monthOf r.vehicleStart = monthOf endTime ∧ ¬ Seen t r.plateNo (monthBefore startTime)) ∧
      (info.type.losses = true →
        monthOf r.vehicleStart = monthBefore startTime ∧ ¬ Seen t r.plateNo (monthOf endTime)) ∧
      (info.type.increment = false → info.type.losses = false →
        inWindow startTime endTime r.vehicleStart = true) := by
  constructor
  · intro ⟨h1, h2, h3, h4, h5, h6⟩
    exact ⟨h1, h2, h3, h4, h5, h6⟩
  · intro ⟨h1, h2, h3, h4, h5, h6⟩
    exact ⟨h1, h2, h3, h4, h5, h6⟩

instance [Server] : Decidable (Satisfies t startTime endTime info r) := decidable_of_iff' _ satisfies_iff

/-! ## The functions -/

inductive SerchFunction where
  | sumBySerchType
  | listBySerchType
  | sumBySerchType2
  | listBySerchType2
  deriving DecidableEq, Repr

/-- The statement of a function. -/
def SerchFunction.conds (f : SerchFunction) (startTime endTime : TimeYMD) (info : VehicleSearchInfo) :
    Option (List Cond) :=
  match f with
  | .sumBySerchType => some (serchTypeConds startTime endTime info)
  | .listBySerchType => some (serchTypeConds startTime endTime info)
  | .sumBySerchType2 => sumBySerchType2Conds startTime endTime info
  | .listBySerchType2 => listBySerchType2Conds startTime endTime info

/-- The function counts or lists exactly the rows that satisfy all the selected filters. -/
def FiltersCompose [Server] (f : SerchFunction) (t : EntranceTable) (startTime endTime : TimeYMD)
    (info : VehicleSearchInfo) : Prop :=
  ∀ r, r ∈ rowsWhere (f.conds startTime endTime info) t ↔
    r ∈ t ∧ Satisfies t startTime endTime info r

/-! ## Statements about the window -/

/-- Where a statement about the window is right about a row. -/
def WindowAgrees [Server] (t : EntranceTable) (startTime endTime endDate : TimeYMD)
    (info : VehicleSearchInfo) (r : DeviceEntrance) : Prop :=
  match info.type with
  -- the area stands for the text
  | ⟨false, true, true, false, false⟩ => r.vehicleType = info.vehicleType →
      (inWindow startTime endDate r.vehicleStart = true ∧ r.vehicleTerr = info.vehicleTerr ↔
        inWindow startTime endTime r.vehicleStart = true ∧ info.fuzzyStr.In r.plateNo)
  | ⟨terr, vehicle, fuzzy, false, false⟩ =>
      (terr = true → r.vehicleTerr = info.vehicleTerr) →
      (vehicle = true → r.vehicleType = info.vehicleType) →
      (inWindow startTime endDate r.vehicleStart = true ∧
          (fuzzy = true → info.fuzzyStr.like r.plateNo = true) ↔
        inWindow startTime endTime r.vehicleStart = true ∧
          (fuzzy = true → info.fuzzyStr.In r.plateNo))
  -- none of the filters is asked for
  | _ => inWindow startTime endDate r.vehicleStart = true ↔ Satisfies t startTime endTime info r

/-- With a filter of months, a statement about the window asks for nothing else. -/
theorem windowAgrees_month [Server] (hmonth : info.type.increment = true ∨ info.type.losses = true) :
    (inWindow startTime endDate r.vehicleStart = true ∧ Filtered t info r ↔
      Satisfies t startTime endTime info r) ↔
    WindowAgrees t startTime endTime endDate info r := by
  obtain ⟨vehicleType, ⟨terr, vehicle, fuzzy, increment, losses⟩, vehicleTerr, fuzzyStr⟩ := info
  rcases hmonth with h | h
  · obtain rfl : increment = true := h
    cases terr <;> cases vehicle <;> cases fuzzy <;> simp [Filtered, serchTypeFilters, WindowAgrees]
  · obtain rfl : losses = true := h
    cases terr <;> cases vehicle <;> cases fuzzy <;> cases increment <;>
      simp [Filtered, serchTypeFilters, WindowAgrees]

/-- What the statements about the window ask for, unless vehicle type and text are selected. -/
theorem filtered_iff [Server] {vehicleType vehicleTerr : ℤ} {terr vehicle fuzzy : Bool}
    {fuzzyStr : FuzzyStr} (hvf : ¬ (terr = false ∧ vehicle = true ∧ fuzzy = true)) :
    Filtered t ⟨vehicleType, ⟨terr, vehicle, fuzzy, false, false⟩, vehicleTerr, fuzzyStr⟩ r ↔
      ((terr = true → r.vehicleTerr = vehicleTerr) ∧ (vehicle = true → r.vehicleType = vehicleType)) ∧
        (fuzzy = true → fuzzyStr.like r.plateNo = true) := by
  cases terr <;> cases vehicle <;> cases fuzzy <;>
    simp [Filtered, serchTypeFilters, Cond.holds, and_comm, and_assoc] at hvf ⊢

theorem windowAgrees_iff [Server] :
    (inWindow startTime endDate r.vehicleStart = true ∧ Filtered t info r ↔
      Satisfies t startTime endTime info r) ↔
    WindowAgrees t startTime endTime endDate info r := by
  by_cases hmonth : info.type.increment = true ∨ info.type.losses = true
  · exact windowAgrees_month hmonth
  obtain ⟨vehicleType, ⟨terr, vehicle, fuzzy, increment, losses⟩, vehicleTerr, fuzzyStr⟩ := info
  obtain ⟨hincrement, hlosses⟩ := not_or.1 hmonth
  obtain rfl : increment = false := Bool.eq_false_of_not_eq_true hincrement
  obtain rfl : losses = false := Bool.eq_false_of_not_eq_true hlosses
  by_cases hvf : terr = false ∧ vehicle = true ∧ fuzzy = true
  · obtain ⟨rfl, rfl, rfl⟩ := hvf
    have hstatement : inWindow startTime endDate r.vehicleStart = true ∧
        Filtered t ⟨vehicleType, ⟨false, true, true, false, false⟩, vehicleTerr, fuzzyStr⟩ r ↔
          r.vehicleType = vehicleType ∧
            inWindow startTime endDate r.vehicleStart = true ∧ r.vehicleTerr = vehicleTerr := by
      simp only [Filtered, serchTypeFilters, List.forall_mem_cons, Cond.holds, decide_eq_true_iff,
        List.not_mem_nil, false_implies, implies_true, and_true]
      rw [and_comm (b := r.vehicleType = vehicleType), and_left_comm]
    have hsatisfies : Satisfies t startTime endTime
        ⟨vehicleType, ⟨false, true, true, false, false⟩, vehicleTerr, fuzzyStr⟩ r ↔
          r.vehicleType = vehicleType ∧
            inWindow startTime endTime r.vehicleStart = true ∧ fuzzyStr.In r.plateNo := by
      simp [satisfies_iff, and_comm]
    rw [hstatement, hsatisfies, and_congr_right_iff]
    rfl
  · have hsatisfies : Satisfies t startTime endTime
        ⟨vehicleType, ⟨terr, vehicle, fuzzy, false, false⟩, vehicleTerr, fuzzyStr⟩ r ↔
          ((terr = true → r.vehicleTerr = vehicleTerr) ∧
              (vehicle = true → r.vehicleType = vehicleType)) ∧
            inWindow startTime endTime r.vehicleStart = true ∧
              (fuzzy = true → fuzzyStr.In r.plateNo) := by
      simp [satisfies_iff, and_comm, and_assoc]
    rw [filtered_iff hvf, and_left_comm, hsatisfies, and_congr_right_iff, and_imp]
    cases terr <;> cases vehicle <;> cases fuzzy <;>
      first
      | rfl
      | exact absurd ⟨rfl, rfl, rfl⟩ hvf

/-! ## Statements about a month -/

/-- Where a statement about the month `m` is right about a row, if it keeps the row under `kept` and
    should keep it when its plate is not seen in `m'`. -/
def MonthAgrees (t : EntranceTable) (info : VehicleSearchInfo) (r : DeviceEntrance)
    (m m' : YearMonth) (kept : Prop) : Prop :=
  monthOf r.vehicleStart = m → (info.type.vehicle = true → r.vehicleType = info.vehicleType) →
    (kept ∧ (info.type.fuzzy = true → info.fuzzyStr.like r.plateNo = true) ↔
      ¬ Seen t r.plateNo m' ∧ (info.type.fuzzy = true → info.fuzzyStr.In r.plateNo))

/-- Where the second versions are right about a row. -/
def SerchType2Agrees [Server] (t : EntranceTable) (startTime endTime endDate : TimeYMD) (lossKept : Prop)
    (firstThree : Prop) (info : VehicleSearchInfo) (r : DeviceEntrance) : Prop :=
  match info.type with
  | ⟨true, true, true, false, false⟩ => firstThree
  | ⟨false, _, _, true, false⟩ =>
      MonthAgrees t info r (monthOf endTime) (monthBefore startTime)
        (FirstIn t r (monthBefore startTime))
  -- the text does not parse
  | ⟨false, true, true, false, true⟩ => ¬ Satisfies t startTime endTime info r
  | ⟨false, _, _, false, true⟩ =>
      MonthAgrees t info r (monthBefore startTime) (monthOf endTime) lossKept
  | _ => WindowAgrees t startTime endTime endDate info r

/-- Where a function is right about a row. -/
def SerchFunction.Agrees [Server] (f : SerchFunction) (t : EntranceTable) (startTime endTime : TimeYMD)
    (info : VehicleSearchInfo) (r : DeviceEntrance) : Prop :=
  match f with
  | .sumBySerchType => WindowAgrees t startTime endTime endTime info r
  | .listBySerchType => WindowAgrees t startTime endTime endTime info r
  | .sumBySerchType2 =>
      SerchType2Agrees t startTime endTime endTime True (¬ Satisfies t startTime endTime info r) info r
  | .listBySerchType2 =>
      SerchType2Agrees t startTime endTime (listEndDate endTime) (FirstIn t r (monthOf endTime))
        (WindowAgrees t startTime endTime (listEndDate endTime) info r) info r

/-- A row in a later month has none of the month before it only if its plate is not seen there. -/
theorem firstIn_iff_not_seen (hvalid : ∀ r ∈ t, r.vehicleStart.Valid) (hr : r ∈ t) {m : YearMonth}
    (h : m.Before (monthOf r.vehicleStart)) : FirstIn t r m ↔ ¬ Seen t r.plateNo m := by
  constructor
  · rintro hfirst ⟨u, hu, rfl, hplate⟩
    have hlt := datetime_lt_of_before (hvalid u hu) h (hvalid r hr)
    exact absurd (hfirst u hu hplate rfl) (Nat.not_le_of_lt hlt)
  · intro hseen u hu hplate hmonth
    exact absurd ⟨u, hu, hmonth, hplate⟩ hseen

/-! ## The theorem -/

theorem mem_of_mem_rowsWhere [Server] {conds : Option (List Cond)} (h : r ∈ rowsWhere conds t) : r ∈ t := by
  cases conds with
  | none => exact absurd h List.not_mem_nil
  | some conds => exact (mem_rowsWhere.1 h).1

theorem windowRows_agree [Server] (hr : r ∈ t) :
    (r ∈ rowsWhere (some (serchTypeConds startTime endDate info)) t ↔
      Satisfies t startTime endTime info r) ↔ WindowAgrees t startTime endTime endDate info r := by
  rw [mem_serchTypeConds, and_iff_right hr, windowAgrees_iff]

theorem noRows_agree [Server] :
    (r ∈ rowsWhere none t ↔ Satisfies t startTime endTime info r) ↔
      ¬ Satisfies t startTime endTime info r :=
  ⟨fun h hs => absurd (h.2 hs) List.not_mem_nil, fun h =>
    ⟨fun hr => absurd hr List.not_mem_nil, fun hs => absurd hs h⟩⟩

theorem monthRows_agree [Server] {conds : List Cond} {m m' : YearMonth} {format : DateFormat} {kept : Prop}
    (hr : r ∈ t) (hconds : (∀ c ∈ conds, c.holds t r = true) ↔ Narrowed info r)
    (hkept : (Cond.notBefore format m').holds t r = true ↔ kept)
    (hsatisfies : Satisfies t startTime endTime info r ↔
      (info.type.vehicle = true → r.vehicleType = info.vehicleType) ∧
        (info.type.fuzzy = true → info.fuzzyStr.In r.plateNo) ∧
        monthOf r.vehicleStart = m ∧ ¬ Seen t r.plateNo m') :
    (r ∈ rowsWhere (some ([.month m, .notBefore format m'] ++ conds)) t ↔
      Satisfies t startTime endTime info r) ↔ MonthAgrees t info r m m' kept := by
  rw [mem_monthRows hconds, and_iff_right hr, hkept, hsatisfies, Narrowed, MonthAgrees]
  by_cases hmonth : monthOf r.vehicleStart = m
  · by_cases hvehicle : info.type.vehicle = true → r.vehicleType = info.vehicleType
    · simp only [hmonth, true_and, and_iff_right hvehicle, forall_const, forall_prop_of_true hvehicle]
      rw [and_comm (b := ¬ _)]
    · simp only [hvehicle, false_and, and_false, false_implies, implies_true]
  · simp only [hmonth, false_and, and_false, false_implies]

/-- A function is right about a row as `SerchFunction.Agrees` says. -/
theorem agrees_iff [Server] (f : SerchFunction) (hr : r ∈ t) :
    (r ∈ rowsWhere (f.conds startTime endTime info) t ↔ Satisfies t startTime endTime info r) ↔
      f.Agrees t startTime endTime info r := by
  have hincrement : (Cond.notBefore .yearMonth (monthBefore startTime)).holds t r = true ↔
      FirstIn t r (monthBefore startTime) := notBefore_holds_iff
  have hlosses : (Cond.notBefore .yearMonth (monthOf endTime)).holds t r = true ↔
      FirstIn t r (monthOf endTime) := notBefore_holds_iff
  have hmessage : (Cond.notBefore .yearMessage (monthOf endTime)).holds t r = true ↔ True :=
    iff_true_intro notBefore_message
  cases f with
  | sumBySerchType => exact windowRows_agree hr
  | listBySerchType => exact windowRows_agree hr
  | sumBySerchType2 =>
      obtain ⟨vehicleType, ⟨terr, vehicle, fuzzy, increment, losses⟩, vehicleTerr, fuzzyStr⟩ := info
      cases terr <;> cases vehicle <;> cases fuzzy <;> cases increment <;> cases losses <;>
        first
        | exact windowRows_agree hr
        | exact noRows_agree
        | exact monthRows_agree hr (by simp [Narrowed, Cond.holds, and_comm]) hincrement
            (by simp [satisfies_iff])
        | exact monthRows_agree hr (by simp [Narrowed, Cond.holds]) hmessage
            (by simp [satisfies_iff])
  | listBySerchType2 =>
      obtain ⟨vehicleType, ⟨terr, vehicle, fuzzy, increment, losses⟩, vehicleTerr, fuzzyStr⟩ := info
      cases terr <;> cases vehicle <;> cases fuzzy <;> cases increment <;> cases losses <;>
        first
        | exact windowRows_agree hr
        | exact noRows_agree
        | exact monthRows_agree hr (by simp [Narrowed, Cond.holds, and_comm]) hincrement
            (by simp [satisfies_iff])
        | exact monthRows_agree hr (by simp [Narrowed, Cond.holds]) hlosses
            (by simp [satisfies_iff])

/-- **The filters compose** exactly where the statement of the combination is right about every row. -/
theorem filtersCompose_iff [Server] (f : SerchFunction) (t : EntranceTable) (startTime endTime : TimeYMD)
    (info : VehicleSearchInfo) :
    FiltersCompose f t startTime endTime info ↔ ∀ r ∈ t, f.Agrees t startTime endTime info r := by
  constructor
  · intro h r hr
    exact (agrees_iff f hr).1 ((h r).trans (and_iff_right hr))
  · intro h r
    constructor
    · intro hrow
      have hr := mem_of_mem_rowsWhere hrow
      exact ⟨hr, ((agrees_iff f hr).2 (h r hr)).1 hrow⟩
    · intro ⟨hr, hsatisfies⟩
      exact ((agrees_iff f hr).2 (h r hr)).2 hsatisfies

/-- A search for a bus with a `B` on its plate counts the bus `A`, which the search for a `B` alone does
    not. -/
theorem text_ignored :
    letI : Server := Server.textual
    mySqlCtrlGetEntranceListSumBySerchType2
        [{ sampleEntrance "A" ⟨2024, 5, 31, 21, 0, 0⟩ with vehicleType := 1 }]
        ⟨2024, 5, 31, 0, 0, 0⟩ ⟨2024, 5, 31, 23, 0, 0⟩
        { sampleStation .null ⟨2024, 5, 31, 0, 0, 0⟩ ⟨2024, 5, 31, 23, 0, 0⟩ with
          fuzzyStr := ⟨"B", by decide⟩ : StationVehicles }.serchInfo = 0 ∧
      mySqlCtrlGetEntranceListSumBySerchType2
        [{ sampleEntrance "A" ⟨2024, 5, 31, 21, 0, 0⟩ with vehicleType := 1 }]
        ⟨2024, 5, 31, 0, 0, 0⟩ ⟨2024, 5, 31, 23, 0, 0⟩
        { sampleStation .null ⟨2024, 5, 31, 0, 0, 0⟩ ⟨2024, 5, 31, 23, 0, 0⟩ with
          vehicleType := 1, fuzzyStr := ⟨"B", by decide⟩ : StationVehicles }.serchInfo = 1 ∧
      ¬ FiltersCompose .sumBySerchType2
        [{ sampleEntrance "A" ⟨2024, 5, 31, 21, 0, 0⟩ with vehicleType := 1 }]
        ⟨2024, 5, 31, 0, 0, 0⟩ ⟨2024, 5, 31, 23, 0, 0⟩
        { sampleStation .null ⟨2024, 5, 31, 0, 0, 0⟩ ⟨2024, 5, 31, 23, 0, 0⟩ with
          vehicleType := 1, fuzzyStr := ⟨"B", by decide⟩ : StationVehicles }.serchInfo := by
  let _ : Server := Server.textual
  refine ⟨by decide, by decide, ?_⟩
  intro h
  have hcounted := (h { sampleEntrance "A" ⟨2024, 5, 31, 21, 0, 0⟩ with vehicleType := 1 }).1
    (by decide)
  exact absurd (hcounted.2.fuzzy rfl) (by decide)

/-! ## What follows where the filters compose -/

/-- `info` selects some of the filters of `more`, with the same values, and no filter of months has come
    in the place of the window. -/
structure Fewer (info more : VehicleSearchInfo) : Prop where
  terr : info.type.terr = true → more.type.terr = true ∧ more.vehicleTerr = info.vehicleTerr
  vehicle : info.type.vehicle = true → more.type.vehicle = true ∧ more.vehicleType = info.vehicleType
  fuzzy : info.type.fuzzy = true → more.type.fuzzy = true ∧ more.fuzzyStr = info.fuzzyStr
  increment : info.type.increment = true → more.type.increment = true
  losses : info.type.losses = true → more.type.losses = true
  window : info.type.increment = false → info.type.losses = false →
    more.type.increment = false ∧ more.type.losses = false

theorem Satisfies.fewer [Server] {more : VehicleSearchInfo} (h : Satisfies t startTime endTime more r)
    (hfewer : Fewer info more) : Satisfies t startTime endTime info r where
  terr hterr := (h.terr (hfewer.terr hterr).1).trans (hfewer.terr hterr).2
  vehicle hvehicle := (h.vehicle (hfewer.vehicle hvehicle).1).trans (hfewer.vehicle hvehicle).2
  fuzzy hfuzzy := (hfewer.fuzzy hfuzzy).2 ▸ h.fuzzy (hfewer.fuzzy hfuzzy).1
  increment hincrement := h.increment (hfewer.increment hincrement)
  losses hlosses := h.losses (hfewer.losses hlosses)
  window hincrement hlosses :=
    h.window (hfewer.window hincrement hlosses).1 (hfewer.window hincrement hlosses).2

/-- **One more filter adds no row.** Two requests that differ in values of filters they do not select are
    each other's `Fewer`, so that those values do not matter either. -/
theorem FiltersCompose.fewer [Server] {f : SerchFunction} {more : VehicleSearchInfo}
    (h : FiltersCompose f t startTime endTime info) (h' : FiltersCompose f t startTime endTime more)
    (hfewer : Fewer info more) (hr : r ∈ rowsWhere (f.conds startTime endTime more) t) :
    r ∈ rowsWhere (f.conds startTime endTime info) t := by
  obtain ⟨hmem, hsatisfies⟩ := (h' r).1 hr
  exact (h r).2 ⟨hmem, hsatisfies.fewer hfewer⟩

section

variable {num : ℕ}

/-- The rows are those of the table that satisfy the filters, in the order of the table. -/
theorem FiltersCompose.rows_eq [Server] {f : SerchFunction}
    (h : FiltersCompose f t startTime endTime info) :
    rowsWhere (f.conds startTime endTime info) t =
      t.filter fun r => Satisfies t startTime endTime info r := by
  unfold FiltersCompose at h
  cases hconds : f.conds startTime endTime info with
  | none =>
      rw [hconds] at h
      refine (List.filter_eq_nil_iff.2 ?_).symm
      intro r hr hsatisfies
      exact absurd ((h r).2 ⟨hr, of_decide_eq_true hsatisfies⟩) List.not_mem_nil
  | some conds =>
      rw [hconds] at h
      refine List.filter_congr fun r hr => ?_
      have hrow := h r
      rw [rowsWhere, List.mem_filter, and_iff_right hr, and_iff_right hr] at hrow
      exact Bool.eq_iff_iff.2 (hrow.trans (decide_eq_true_iff).symm)

theorem FiltersCompose.sum_eq [Server] (h : FiltersCompose .sumBySerchType t startTime endTime info) :
    mySqlCtrlGetEntranceListSumBySerchType t startTime endTime info =
      (t.filter fun r => Satisfies t startTime endTime info r).length :=
  congrArg List.length h.rows_eq

theorem FiltersCompose.list_perm [Server] {result : List DeviceEntrance} (hnum : 1 ≤ num)
    (h : FiltersCompose .listBySerchType t startTime endTime info)
    (hresult : Sorted (rowsWhere (some (serchTypeConds startTime endTime info)) t) result) :
    (allPages mySqlCtrlGetEntranceListBySerchType num result).Perm
      (t.filter fun r => Satisfies t startTime endTime info r) := by
  have hpages : allPages mySqlCtrlGetEntranceListBySerchType num result = result :=
    allPages_eq hnum fun _ => rfl
  have hrows : rowsWhere (some (serchTypeConds startTime endTime info)) t =
      t.filter fun r => Satisfies t startTime endTime info r := h.rows_eq
  rw [hpages, ← hrows]
  exact hresult.1

/-- The second total counts the plates of those rows. -/
theorem FiltersCompose.sum2_eq [Server] (h : FiltersCompose .sumBySerchType2 t startTime endTime info) :
    mySqlCtrlGetEntranceListSumBySerchType2 t startTime endTime info =
      ((t.filter fun r => Satisfies t startTime endTime info r).map
        DeviceEntrance.plateNo).dedup.length := by
  have hrows : rowsWhere (sumBySerchType2Conds startTime endTime info) t =
      t.filter fun r => Satisfies t startTime endTime info r := h.rows_eq
  rw [mySqlCtrlGetEntranceListSumBySerchType2, hrows]

/-- The second list has a group for each of the plates. -/
theorem FiltersCompose.list2_perm [Server] {result : List EntranceGroup} (hnum : 1 ≤ num)
    (h : FiltersCompose .listBySerchType2 t startTime endTime info)
    (hresult : Grouped (rowsWhere (listBySerchType2Conds startTime endTime info) t) result) :
    ((allPages mySqlCtrlGetEntranceListBySerchType2 num result).map EntranceGroup.plateNo).Perm
      ((t.filter fun r => Satisfies t startTime endTime info r).map DeviceEntrance.plateNo).dedup := by
  have hpages : allPages mySqlCtrlGetEntranceListBySerchType2 num result = result :=
    allPages_eq hnum fun _ => rfl
  have hrows : rowsWhere (listBySerchType2Conds startTime endTime info) t =
      t.filter fun r => Satisfies t startTime endTime info r := h.rows_eq
  rw [hpages, ← hrows]
  exact hresult.plates

end

/-! ## Ordinary requests

The end is not in a month before the start's, and the text has no sign with a meaning of its own. -/

/-- A text of plain characters is looked for as it is. -/
theorem like_iff_in
    (hplain : info.type.fuzzy = true → ∀ c ∈ info.fuzzyStr.text.toList, PlainChar c)
    (plateNo : String) :
    (info.type.fuzzy = true → info.fuzzyStr.like plateNo = true) ↔
      (info.type.fuzzy = true → info.fuzzyStr.In plateNo) :=
  forall_congr' fun hfuzzy => likeContains_iff (hplain hfuzzy)

section

variable (hvalid : ∀ r ∈ t, r.vehicleStart.Valid)
  (hmonths : (monthBefore startTime).Before (monthOf endTime))
  (hplain : info.type.fuzzy = true → ∀ c ∈ info.fuzzyStr.text.toList, PlainChar c)
include hvalid hmonths hplain

/-- The increments are right about every row. -/
theorem monthAgrees_increment (hr : r ∈ t) :
    MonthAgrees t info r (monthOf endTime) (monthBefore startTime)
      (FirstIn t r (monthBefore startTime)) := by
  intro hmonth _
  rw [firstIn_iff_not_seen hvalid hr (hmonth ▸ hmonths), like_iff_in hplain]

/-- The losses are right about a row unless its plate is seen again. -/
theorem monthAgrees_losses_iff (hr : r ∈ t) :
    MonthAgrees t info r (monthBefore startTime) (monthOf endTime) (FirstIn t r (monthOf endTime)) ↔
      (monthOf r.vehicleStart = monthBefore startTime → Narrowed info r →
        ¬ Seen t r.plateNo (monthOf endTime)) := by
  unfold MonthAgrees Narrowed
  refine forall_congr' fun hmonth => ?_
  have hfirst : FirstIn t r (monthOf endTime) := firstIn_of_before hvalid hr (hmonth ▸ hmonths)
  rw [like_iff_in hplain, and_imp]
  refine forall_congr' fun _ => ?_
  constructor
  · intro h hin
    exact (h.1 ⟨hfirst, hin⟩).1
  · intro h
    exact ⟨fun ⟨_, hin⟩ => ⟨h hin, hin⟩, fun ⟨_, hin⟩ => ⟨hfirst, hin⟩⟩

/-- The searches for new plates compose, in the totals and in the lists. -/
theorem filtersCompose_increment [Server] (f : SerchFunction)
    (hf : f = .sumBySerchType2 ∨ f = .listBySerchType2) (hterr : info.type.terr = false)
    (hincrement : info.type.increment = true) (hlosses : info.type.losses = false) :
    FiltersCompose f t startTime endTime info := by
  rw [filtersCompose_iff]
  intro r hr
  have hagrees : MonthAgrees t info r (monthOf endTime) (monthBefore startTime)
      (FirstIn t r (monthBefore startTime)) := monthAgrees_increment hvalid hmonths hplain hr
  obtain ⟨vehicleType, ⟨terr, vehicle, fuzzy, increment, losses⟩, vehicleTerr, fuzzyStr⟩ := info
  obtain rfl : terr = false := hterr
  obtain rfl : increment = true := hincrement
  obtain rfl : losses = false := hlosses
  rcases hf with rfl | rfl <;> exact hagrees

end

end SmartPlat.VehicleDataAnalysis
