import SmartPlat.VehicleDataAnalysis.Search
import Mathlib.Data.List.Perm.Subperm

set_option autoImplicit false

/-! # Totals and pages

`GetEntranceVehiclesList` counts with one statement and lists with another. The two agree as far as they
select rows of the same plates; `GetAbnormalVehicleList` counts a stay of exactly twenty minutes that it
does not list. -/

namespace SmartPlat.VehicleDataAnalysis

open SmartPlat.Lib SmartPlat.MySql

variable {t : EntranceTable} {startTime endTime : TimeYMD} {info : VehicleSearchInfo} {num : ℕ}

/-! ## Pages of a result -/

section

variable {α : Type} {l : List α}

/-- The number of the first row of a page. -/
theorem offset_eq {p : ℕ} (hp : 1 ≤ p) : ((p : ℤ) - 1) * num = ((p - 1) * num : ℕ) := by
  rw [Int.natCast_mul, Int.natCast_sub hp, Int.natCast_one]

theorem limit_eq_page {p : ℕ} (hp : 1 ≤ p) : limit (((p : ℤ) - 1) * num) num l = page num p l := by
  rw [limit, offset_eq hp, if_neg (by omega), Int.toNat_natCast, Int.toNat_natCast, page]

/-- The pages of a `limit` are the whole result. -/
theorem allPages_eq {list : ℤ → ℤ → List α → List α} (hnum : 1 ≤ num)
    (hlist : ∀ p : ℤ, list p num l = limit ((p - 1) * num) num l) : allPages list num l = l := by
  have hfull : l.length ≤ (l.length / num + 1) * num := by
    have hmod := Nat.div_add_mod' l.length num
    have hlt := Nat.mod_lt l.length hnum
    rw [Nat.succ_mul]
    omega
  have hpage : ∀ i : ℕ, list (i + 1) num l = page num (i + 1) l := by
    intro i
    rw [hlist, ← limit_eq_page (Nat.le_add_left 1 i), Int.natCast_add, Int.natCast_one]
  calc allPages list num l
      = pages num (l.length / num + 1) l := by
        unfold allPages pages
        simp only [hpage]
    _ = l := pages_eq hfull

end

/-! ## Groups -/

section

variable {rows : List DeviceEntrance} {result : List EntranceGroup}

theorem Grouped.nodup (h : Grouped rows result) : (result.map EntranceGroup.plateNo).Nodup :=
  h.plates.nodup_iff.2 (List.nodup_dedup _)

/-- The groups are those of the plates of the rows. -/
theorem Grouped.mem_plates (h : Grouped rows result) {p : String} :
    p ∈ result.map EntranceGroup.plateNo ↔ ∃ r ∈ rows, r.plateNo = p := by
  rw [h.plates.mem_iff, List.mem_dedup, List.mem_map]

theorem Grouped.length (h : Grouped rows result) :
    result.length = (rows.map DeviceEntrance.plateNo).dedup.length := by
  rw [← h.plates.length_eq, List.length_map]

/-- A plate is on exactly one page of the groups. -/
theorem Grouped.existsUnique_page (h : Grouped rows result) (hnum : 1 ≤ num) {p : String}
    (hp : ∃ r ∈ rows, r.plateNo = p) :
    ∃! i : ℕ, 1 ≤ i ∧
      p ∈ (mySqlCtrlGetEntranceListBySerchType2 i num result).map EntranceGroup.plateNo := by
  obtain ⟨i, ⟨hi, hmem⟩, hunique⟩ := Lib.existsUnique_page hnum h.nodup (h.mem_plates.2 hp)
  have hpage : ∀ j : ℕ, 1 ≤ j →
      (mySqlCtrlGetEntranceListBySerchType2 j num result).map EntranceGroup.plateNo =
        page num j (result.map EntranceGroup.plateNo) := by
    intro j hj
    rw [mySqlCtrlGetEntranceListBySerchType2, limit_eq_page hj, map_page]
  refine ⟨i, ⟨hi, (hpage i hi).symm ▸ hmem⟩, ?_⟩
  rintro j ⟨hj, hmem'⟩
  exact hunique j ⟨hj, hpage j hj ▸ hmem'⟩

/-- Every plate of the rows has a group. -/
theorem exists_isGroup {p : String} (hp : ∃ r ∈ rows, r.plateNo = p) :
    ∃ g, g.plateNo = p ∧ IsGroup rows g := by
  obtain ⟨r, hr, rfl⟩ := hp
  cases hstart : maxStartdate r.plateNo rows with
  | none =>
      rw [maxStartdate, List.argmax_eq_none, List.map_eq_nil_iff, List.filter_eq_nil_iff] at hstart
      exact absurd (decide_eq_true rfl) (hstart r hr)
  | some start =>
      exact ⟨⟨rows.countP fun s => s.plateNo = r.plateNo, r.plateNo, start, r.vehicleTerr, r.plateColor,
        r.vehicleType, r.vehicleImagePath, r.snapToken⟩, rfl, rfl, hstart, ⟨r, hr, rfl, rfl⟩,
        ⟨r, hr, rfl, rfl⟩, ⟨r, hr, rfl, rfl⟩, ⟨r, hr, rfl, rfl⟩, ⟨r, hr, rfl, rfl⟩⟩

theorem exists_groups (plates : List String) (h : ∀ p ∈ plates, ∃ r ∈ rows, r.plateNo = p) :
    ∃ result : List EntranceGroup, result.map EntranceGroup.plateNo = plates ∧
      ∀ g ∈ result, IsGroup rows g := by
  induction plates with
  | nil => exact ⟨[], rfl, fun g hg => absurd hg List.not_mem_nil⟩
  | cons p plates ih =>
      obtain ⟨g, hplate, hg⟩ := exists_isGroup (h p List.mem_cons_self)
      obtain ⟨result, hmap, hresult⟩ := ih fun q hq => h q (List.mem_cons_of_mem _ hq)
      refine ⟨g :: result, by rw [List.map_cons, hplate, hmap], ?_⟩
      intro g' hg'
      rcases List.mem_cons.1 hg' with rfl | hmem
      · exact hg
      · exact hresult g' hmem

/-- The server has an answer for any rows. -/
theorem exists_grouped (rows : List DeviceEntrance) : ∃ result, Grouped rows result := by
  have hplates : ∀ p ∈ (rows.map DeviceEntrance.plateNo).dedup, ∃ r ∈ rows, r.plateNo = p := by
    intro p hp
    rwa [List.mem_dedup, List.mem_map] at hp
  obtain ⟨groups, hmap, hgroups⟩ := exists_groups _ hplates
  let le : EntranceGroup → EntranceGroup → Bool := fun g h => h.stay ≤ g.stay
  have hperm := List.mergeSort_perm groups le
  have htrans : ∀ g h k, le g h = true → le h k = true → le g k = true := by
    intro g h k hgh hhk
    exact decide_eq_true (Nat.le_trans (decide_eq_true_iff.1 hhk) (decide_eq_true_iff.1 hgh))
  have htotal : ∀ g h, (le g h || le h g) = true := by
    intro g h
    rw [Bool.or_eq_true, decide_eq_true_iff, decide_eq_true_iff]
    exact Nat.le_total _ _
  refine ⟨groups.mergeSort le, fun g hg => hgroups g (hperm.mem_iff.1 hg), hmap ▸ hperm.map _, ?_⟩
  exact (List.pairwise_mergeSort htrans htotal groups).imp fun h => decide_eq_true_iff.1 h

end

/-! ## The claim about totals -/

/-- For one request: the total is the number of items on all pages, every plate that is counted or listed
    is on exactly one page, and the same for the total of the long stays. -/
structure TotalsMatchPages [Server] (t : EntranceTable) (startTime endTime : TimeYMD)
    (info : VehicleSearchInfo) (num : ℕ) (result : List EntranceGroup)
    (stays : List DeviceEntrance) : Prop where
  total : mySqlCtrlGetEntranceListSumBySerchType2 t startTime endTime info =
    (allPages mySqlCtrlGetEntranceListBySerchType2 num result).length
  onePage : ∀ p, (∃ r ∈ rowsWhere (sumBySerchType2Conds startTime endTime info) t, r.plateNo = p) ∨
      (∃ g ∈ result, g.plateNo = p) →
    ∃! i : ℕ, 1 ≤ i ∧
      p ∈ (mySqlCtrlGetEntranceListBySerchType2 i num result).map EntranceGroup.plateNo
  abnormal : ∀ page : ℤ,
    (getAbnormalVehicleList page num t startTime endTime stays).map Prod.fst =
      some (allPages (fun page num stays =>
        ((getAbnormalVehicleList page num t startTime endTime stays).map Prod.snd).getD []) num
          stays).length

/-- The plates that are counted are those that are listed. -/
def SamePlates (counted listed : List DeviceEntrance) : Prop :=
  ∀ p, (∃ r ∈ counted, r.plateNo = p) ↔ ∃ r ∈ listed, r.plateNo = p

theorem samePlates_of_total {counted listed : List DeviceEntrance}
    (hsub : ∀ p, (∃ r ∈ counted, r.plateNo = p) → ∃ r ∈ listed, r.plateNo = p)
    (htotal : (counted.map DeviceEntrance.plateNo).dedup.length =
      (listed.map DeviceEntrance.plateNo).dedup.length) : SamePlates counted listed := by
  have hsubset : (counted.map DeviceEntrance.plateNo).dedup ⊆
      (listed.map DeviceEntrance.plateNo).dedup := by
    intro p hp
    rw [List.mem_dedup, List.mem_map] at hp ⊢
    exact hsub p hp
  have hperm := (List.subperm_of_subset (List.nodup_dedup _) hsubset).perm_of_length_le
    (Nat.le_of_eq htotal.symm)
  intro p
  have hmem := hperm.mem_iff (a := p)
  rwa [List.mem_dedup, List.mem_map, List.mem_dedup, List.mem_map] at hmem

theorem SamePlates.length_eq {counted listed : List DeviceEntrance} (h : SamePlates counted listed) :
    (counted.map DeviceEntrance.plateNo).dedup.length =
      (listed.map DeviceEntrance.plateNo).dedup.length := by
  refine ((List.perm_ext_iff_of_nodup (List.nodup_dedup _) (List.nodup_dedup _)).2 ?_).length_eq
  intro p
  rw [List.mem_dedup, List.mem_map, List.mem_dedup, List.mem_map]
  exact h p

/-- **Totals match pages where the same plates are counted and listed.** -/
theorem total_onePage_iff [Server] {result : List EntranceGroup} (hnum : 1 ≤ num)
    (hresult : Grouped (rowsWhere (listBySerchType2Conds startTime endTime info) t) result) :
    (mySqlCtrlGetEntranceListSumBySerchType2 t startTime endTime info =
        (allPages mySqlCtrlGetEntranceListBySerchType2 num result).length ∧
      ∀ p, (∃ r ∈ rowsWhere (sumBySerchType2Conds startTime endTime info) t, r.plateNo = p) ∨
          (∃ g ∈ result, g.plateNo = p) →
        ∃! i : ℕ, 1 ≤ i ∧
          p ∈ (mySqlCtrlGetEntranceListBySerchType2 i num result).map EntranceGroup.plateNo) ↔
    SamePlates (rowsWhere (sumBySerchType2Conds startTime endTime info) t)
      (rowsWhere (listBySerchType2Conds startTime endTime info) t) := by
  have hpages : allPages mySqlCtrlGetEntranceListBySerchType2 num result = result :=
    allPages_eq hnum fun _ => rfl
  rw [hpages, hresult.length]
  constructor
  · intro ⟨htotal, honce⟩
    refine samePlates_of_total (fun p hp => ?_) htotal
    obtain ⟨i, ⟨hi, hmem⟩, -⟩ := honce p (.inl hp)
    rw [mySqlCtrlGetEntranceListBySerchType2, limit_eq_page hi, map_page] at hmem
    exact hresult.mem_plates.1 (mem_of_mem_page hmem)
  · intro h
    refine ⟨h.length_eq, ?_⟩
    rintro p (hp | ⟨g, hg, rfl⟩)
    · exact hresult.existsUnique_page hnum ((h p).1 hp)
    · exact hresult.existsUnique_page hnum (hresult.mem_plates.1 (List.mem_map_of_mem hg))

/-! ## Which plates the two statements select -/

/-- What a statement asks of a row next to the window. -/
def Filtered [Server] (t : EntranceTable) (info : VehicleSearchInfo) (r : DeviceEntrance) : Prop :=
  ∀ c ∈ serchTypeFilters info, c.holds t r = true

/-- What a statement about a month asks of a row next to the month. -/
def Narrowed (info : VehicleSearchInfo) (r : DeviceEntrance) : Prop :=
  (info.type.vehicle = true → r.vehicleType = info.vehicleType) ∧
    (info.type.fuzzy = true → info.fuzzyStr.like r.plateNo = true)

/-- No row of the plate in the month is before the row. -/
def FirstIn (t : EntranceTable) (r : DeviceEntrance) (m : YearMonth) : Prop :=
  ∀ u ∈ t, u.plateNo = r.plateNo → monthOf u.vehicleStart = m →
    r.vehicleStart.datetime ≤ u.vehicleStart.datetime

/-- The condition under which the two statements of a request select the same plates. -/
def PlatesAgree [Server] (t : EntranceTable) (startTime endTime : TimeYMD)
    (info : VehicleSearchInfo) : Prop :=
  match info.type with
  -- the total does not parse
  | ⟨true, true, true, false, false⟩ => ∀ r ∈ t,
      inWindow startTime (listEndDate endTime) r.vehicleStart = true → ¬ Filtered t info r
  -- neither parses
  | ⟨false, true, true, false, true⟩ => True
  | ⟨false, _, _, true, false⟩ => True
  -- the list leaves out rows after one of the end's month
  | ⟨false, _, _, false, true⟩ => ∀ r ∈ t, monthOf r.vehicleStart = monthBefore startTime →
      Narrowed info r → ∃ s ∈ t, s.plateNo = r.plateNo ∧
        monthOf s.vehicleStart = monthBefore startTime ∧ Narrowed info s ∧
        FirstIn t s (monthOf endTime)
  -- the windows end at different times
  | _ => ∀ p, (∃ r ∈ t, r.plateNo = p ∧ inWindow startTime endTime r.vehicleStart = true ∧
        Filtered t info r) ↔
      ∃ r ∈ t, r.plateNo = p ∧ inWindow startTime (listEndDate endTime) r.vehicleStart = true ∧
        Filtered t info r

theorem mem_serchTypeConds [Server] {endDate : TimeYMD} {r : DeviceEntrance} :
    r ∈ rowsWhere (some (serchTypeConds startTime endDate info)) t ↔
      r ∈ t ∧ inWindow startTime endDate r.vehicleStart = true ∧ Filtered t info r := by
  rw [mem_rowsWhere, serchTypeConds, List.forall_mem_cons]
  rfl

theorem exists_mem_serchTypeConds [Server] {endDate : TimeYMD} {p : String} :
    (∃ r ∈ rowsWhere (some (serchTypeConds startTime endDate info)) t, r.plateNo = p) ↔
      ∃ r ∈ t, r.plateNo = p ∧ inWindow startTime endDate r.vehicleStart = true ∧
        Filtered t info r := by
  constructor
  · intro ⟨r, hr, hp⟩
    obtain ⟨hmem, hwindow, hfiltered⟩ := mem_serchTypeConds.1 hr
    exact ⟨r, hmem, hp, hwindow, hfiltered⟩
  · intro ⟨r, hmem, hp, hwindow, hfiltered⟩
    exact ⟨r, mem_serchTypeConds.2 ⟨hmem, hwindow, hfiltered⟩, hp⟩

theorem samePlates_windows [Server] {endDate : TimeYMD} :
    SamePlates (rowsWhere (some (serchTypeConds startTime endTime info)) t)
        (rowsWhere (some (serchTypeConds startTime endDate info)) t) ↔
      ∀ p, (∃ r ∈ t, r.plateNo = p ∧ inWindow startTime endTime r.vehicleStart = true ∧
          Filtered t info r) ↔
        ∃ r ∈ t, r.plateNo = p ∧ inWindow startTime endDate r.vehicleStart = true ∧
          Filtered t info r :=
  forall_congr' fun _ => iff_congr exists_mem_serchTypeConds exists_mem_serchTypeConds

theorem samePlates_uncounted [Server] {endDate : TimeYMD} :
    SamePlates (rowsWhere none t) (rowsWhere (some (serchTypeConds startTime endDate info)) t) ↔
      ∀ r ∈ t, inWindow startTime endDate r.vehicleStart = true → ¬ Filtered t info r := by
  constructor
  · intro h r hr hwindow hfiltered
    obtain ⟨s, hs, -⟩ := (h r.plateNo).2 ⟨r, mem_serchTypeConds.2 ⟨hr, hwindow, hfiltered⟩, rfl⟩
    exact absurd hs List.not_mem_nil
  · intro h p
    constructor
    · rintro ⟨r, hr, -⟩
      exact absurd hr List.not_mem_nil
    · rintro ⟨r, hr, -⟩
      obtain ⟨hmem, hwindow, hfiltered⟩ := mem_serchTypeConds.1 hr
      exact absurd hfiltered (h r hmem hwindow)

/-- `not EXISTS` as a condition on the rows with the plate. -/
theorem notBefore_holds_iff [Server] {r : DeviceEntrance} {m : YearMonth} :
    (Cond.notBefore .yearMonth m).holds t r = true ↔ FirstIn t r m := by
  simp only [FirstIn, Cond.holds, DateFormat.agrees, Bool.not_eq_true', List.any_eq_false, Bool.and_eq_true,
    decide_eq_true_iff, not_and, gt_iff_lt]
  constructor
  · intro h u hu hplate hmonth
    by_contra hlt
    exact h u hu ⟨hplate.symm, Nat.lt_of_not_le hlt⟩ hmonth
  · rintro h u hu ⟨hplate, hlt⟩ hmonth
    exact absurd (h u hu hplate.symm hmonth) (Nat.not_le_of_lt hlt)

/-- With the message of `errno` in its format, `not EXISTS` holds of every row. -/
theorem notBefore_message [Server] {r : DeviceEntrance} {m : YearMonth} :
    (Cond.notBefore .yearMessage m).holds t r = true := by
  simp [Cond.holds, DateFormat.agrees]

/-- The rows of a statement about a month. -/
theorem mem_monthRows [Server] {conds : List Cond} {m m' : YearMonth} {format : DateFormat}
    {r : DeviceEntrance} (hconds : (∀ c ∈ conds, c.holds t r = true) ↔ Narrowed info r) :
    r ∈ rowsWhere (some ([.month m, .notBefore format m'] ++ conds)) t ↔
      r ∈ t ∧ monthOf r.vehicleStart = m ∧ (Cond.notBefore format m').holds t r = true ∧
        Narrowed info r := by
  have hmonth : (Cond.month m).holds t r = true ↔ monthOf r.vehicleStart = m := decide_eq_true_iff
  rw [mem_rowsWhere, List.cons_append, List.cons_append, List.nil_append, List.forall_mem_cons,
    List.forall_mem_cons, hconds, hmonth]

theorem samePlates_losses [Server] {conds : List Cond} {m m' : YearMonth}
    (hconds : ∀ r, (∀ c ∈ conds, c.holds t r = true) ↔ Narrowed info r) :
    SamePlates (rowsWhere (some ([.month m, .notBefore .yearMessage m'] ++ conds)) t)
        (rowsWhere (some ([.month m, .notBefore .yearMonth m'] ++ conds)) t) ↔
      ∀ r ∈ t, monthOf r.vehicleStart = m → Narrowed info r → ∃ s ∈ t, s.plateNo = r.plateNo ∧
        monthOf s.vehicleStart = m ∧ Narrowed info s ∧ FirstIn t s m' := by
  constructor
  · intro h r hr hm hnarrow
    obtain ⟨s, hs, hplate⟩ := (h r.plateNo).1
      ⟨r, (mem_monthRows (hconds r)).2 ⟨hr, hm, notBefore_message, hnarrow⟩, rfl⟩
    obtain ⟨hs, hm', hfirst, hnarrow'⟩ := (mem_monthRows (hconds s)).1 hs
    exact ⟨s, hs, hplate, hm', hnarrow', notBefore_holds_iff.1 hfirst⟩
  · intro h p
    constructor
    · rintro ⟨r, hr, rfl⟩
      obtain ⟨hr, hm, -, hnarrow⟩ := (mem_monthRows (hconds r)).1 hr
      obtain ⟨s, hs, hplate, hm', hnarrow', hfirst⟩ := h r hr hm hnarrow
      exact ⟨s, (mem_monthRows (hconds s)).2 ⟨hs, hm', notBefore_holds_iff.2 hfirst, hnarrow'⟩, hplate⟩
    · rintro ⟨r, hr, rfl⟩
      obtain ⟨hr, hm, -, hnarrow⟩ := (mem_monthRows (hconds r)).1 hr
      exact ⟨r, (mem_monthRows (hconds r)).2 ⟨hr, hm, notBefore_message, hnarrow⟩, rfl⟩

theorem samePlates_iff [Server] :
    SamePlates (rowsWhere (sumBySerchType2Conds startTime endTime info) t)
        (rowsWhere (listBySerchType2Conds startTime endTime info) t) ↔
      PlatesAgree t startTime endTime info := by
  have hrefl : ∀ rows, SamePlates rows rows ↔ True := fun rows => iff_true_intro fun _ => Iff.rfl
  obtain ⟨vehicleType, ⟨terr, vehicle, fuzzy, increment, losses⟩, vehicleTerr, fuzzyStr⟩ := info
  cases terr <;> cases vehicle <;> cases fuzzy <;> cases increment <;> cases losses <;>
    first
    | exact samePlates_windows
    | exact samePlates_uncounted
    | exact hrefl _
    | exact samePlates_losses (by simp [Narrowed, Cond.holds])

/-- A row in an earlier month is before all of the month. -/
theorem firstIn_of_before (hvalid : ∀ r ∈ t, r.vehicleStart.Valid) {r : DeviceEntrance} (hr : r ∈ t)
    {m : YearMonth} (h : (monthOf r.vehicleStart).Before m) : FirstIn t r m := by
  rintro u hu - rfl
  exact Nat.le_of_lt (datetime_lt_of_before (hvalid r hr) h (hvalid u hu))

/-- Where the end is not in a month before the start's, the losses are counted as they are listed. -/
theorem platesAgree_losses [Server] (hvalid : ∀ r ∈ t, r.vehicleStart.Valid)
    (hmonths : (monthBefore startTime).Before (monthOf endTime)) (hterr : info.type.terr = false)
    (hincrement : info.type.increment = false) (hlosses : info.type.losses = true) :
    PlatesAgree t startTime endTime info := by
  have hlisted : ∀ r ∈ t, monthOf r.vehicleStart = monthBefore startTime → Narrowed info r →
      ∃ s ∈ t, s.plateNo = r.plateNo ∧ monthOf s.vehicleStart = monthBefore startTime ∧
        Narrowed info s ∧ FirstIn t s (monthOf endTime) := by
    intro r hr hmonth hnarrow
    exact ⟨r, hr, rfl, hmonth, hnarrow, firstIn_of_before hvalid hr (hmonth ▸ hmonths)⟩
  obtain ⟨vehicleType, ⟨terr, vehicle, fuzzy, increment, losses⟩, vehicleTerr, fuzzyStr⟩ := info
  obtain rfl : terr = false := hterr
  obtain rfl : increment = false := hincrement
  obtain rfl : losses = true := hlosses
  cases vehicle <;> cases fuzzy
  case true.true => trivial
  all_goals exact hlisted

/-! ## Long stays -/

/-- The total counts the stays of twenty minutes on top of the longer ones. -/
theorem residenceByTime_eq [Server] : mySqlCtrlGetEntranceResidenceByTime t startTime endTime .min3 =
    (residenceRows t startTime endTime).length +
      t.countP fun r => inWindow startTime endTime r.vehicleStart && r.staytime = 20 * 60 := by
  unfold mySqlCtrlGetEntranceResidenceByTime residenceRows
  rw [← List.countP_eq_length_filter]
  induction t with
  | nil => rfl
  | cons r t ih =>
      simp only [List.countP_cons] at ih ⊢
      rw [ih]
      cases inWindow startTime endTime r.vehicleStart with
      | false => simp
      | true =>
          simp only [Bool.true_and, Bool.and_true, decide_eq_true_iff]
          split_ifs <;> omega

theorem abnormal_iff [Server] {stays : List DeviceEntrance} (hnum : 1 ≤ num)
    (hstays : stays.Perm (residenceRows t startTime endTime)) :
    (∀ page : ℤ, (getAbnormalVehicleList page num t startTime endTime stays).map Prod.fst =
      some (allPages (fun page num stays =>
        ((getAbnormalVehicleList page num t startTime endTime stays).map Prod.snd).getD []) num
          stays).length) ↔
    ∀ r ∈ t, inWindow startTime endTime r.vehicleStart = true → r.staytime ≠ 20 * 60 := by
  have hpages : allPages (fun page num stays =>
      ((getAbnormalVehicleList page num t startTime endTime stays).map Prod.snd).getD []) num
        stays = stays := by
    refine allPages_eq hnum fun page => ?_
    rw [getAbnormalVehicleList, if_neg (Int.not_lt.2 (Int.natCast_nonneg num))]
    rfl
  rw [hpages, hstays.length_eq]
  simp only [getAbnormalVehicleList, if_neg (Int.not_lt.2 (Int.natCast_nonneg num)), Option.map_some,
    Option.some.injEq, residenceByTime_eq, forall_const, Nat.add_eq_left, List.countP_eq_zero,
    Bool.and_eq_true, decide_eq_true_iff, not_and, ne_eq]

/-! ## The theorem -/

/-- **The totals match the pages** exactly where the two statements select the same plates and no stay in
    the window lasts twenty minutes to the second. -/
theorem totalsMatchPages_iff [Server] {result : List EntranceGroup} {stays : List DeviceEntrance}
    (hnum : 1 ≤ num)
    (hresult : Grouped (rowsWhere (listBySerchType2Conds startTime endTime info) t) result)
    (hstays : stays.Perm (residenceRows t startTime endTime)) :
    TotalsMatchPages t startTime endTime info num result stays ↔
      PlatesAgree t startTime endTime info ∧
        ∀ r ∈ t, inWindow startTime endTime r.vehicleStart = true → r.staytime ≠ 20 * 60 := by
  rw [← samePlates_iff, ← total_onePage_iff hnum hresult, ← abnormal_iff hnum hstays, and_assoc]
  constructor
  · intro ⟨htotal, honce, habnormal⟩
    exact ⟨htotal, honce, habnormal⟩
  · intro ⟨htotal, honce, habnormal⟩
    exact ⟨htotal, honce, habnormal⟩

theorem grouped_sample (plateNo : String) (startdate : TimeYMD) :
    Grouped [sampleEntrance plateNo startdate] [sampleGroup plateNo startdate] where
  groups g hg := by
    obtain rfl := List.mem_singleton.1 hg
    exact ⟨by simp [sampleGroup, sampleEntrance], by simp [maxStartdate, sampleGroup, sampleEntrance],
      by simp [sampleGroup, sampleEntrance], by simp [sampleGroup, sampleEntrance],
      by simp [sampleGroup, sampleEntrance], by simp [sampleGroup, sampleEntrance],
      by simp [sampleGroup, sampleEntrance]⟩
  plates := List.Perm.refl _
  sorted := List.pairwise_singleton _ _

/-- Two plates that are new in May, one of them seen twice, and one that came in April, too. The last
    visit lasts half an hour. -/
def sampleMay : EntranceTable :=
  [sampleEntrance "A" ⟨2024, 4, 10, 12, 0, 0⟩, sampleEntrance "A" ⟨2024, 5, 2, 9, 0, 0⟩,
    sampleEntrance "B" ⟨2024, 5, 3, 10, 0, 0⟩, sampleEntrance "B" ⟨2024, 5, 31, 21, 0, 0⟩,
    { sampleEntrance "C" ⟨2024, 5, 20, 8, 0, 0⟩ with vehicleEnd := ⟨2024, 5, 20, 8, 30, 0⟩ }]

/-- On pages of one. -/
theorem totalsMatchPages_increment :
    letI : Server := Server.textual
    TotalsMatchPages sampleMay ⟨2024, 5, 1, 0, 0, 0⟩ ⟨2024, 5, 31, 23, 0, 0⟩
      (sampleStation .increment ⟨2024, 5, 1, 0, 0, 0⟩ ⟨2024, 5, 31, 23, 0, 0⟩).serchInfo 1
      [{ sampleGroup "B" ⟨2024, 5, 31, 21, 0, 0⟩ with stay := 2 }, sampleGroup "C" ⟨2024, 5, 20, 8, 0, 0⟩]
      (sampleMay.drop 4) := by
  let _ : Server := Server.textual
  refine (totalsMatchPages_iff (by decide) ?_ (by decide +kernel)).2 ⟨trivial, by decide +kernel⟩
  have hrows : rowsWhere (listBySerchType2Conds ⟨2024, 5, 1, 0, 0, 0⟩ ⟨2024, 5, 31, 23, 0, 0⟩
      (sampleStation .increment ⟨2024, 5, 1, 0, 0, 0⟩ ⟨2024, 5, 31, 23, 0, 0⟩).serchInfo)
      sampleMay = sampleMay.drop 2 := by
    decide
  rw [hrows]
  refine ⟨?_, by decide, by decide⟩
  simp only [List.forall_mem_cons]
  refine ⟨?_, ?_, fun g hg => absurd hg List.not_mem_nil⟩
  · exact ⟨by decide, by decide, by decide, by decide, by decide, by decide, by decide⟩
  · exact ⟨by decide, by decide, by decide, by decide, by decide, by decide, by decide⟩

/-- A car that comes at nine in the evening is counted and not listed, and so is a stay of twenty
    minutes. -/
theorem counted_not_listed :
    letI : Server := Server.textual
    (Grouped (rowsWhere (listBySerchType2Conds ⟨2024, 5, 31, 0, 0, 0⟩ ⟨2024, 5, 31, 23, 0, 0⟩
          (sampleStation .null ⟨2024, 5, 31, 0, 0, 0⟩ ⟨2024, 5, 31, 23, 0, 0⟩).serchInfo)
          [sampleEntrance "A" ⟨2024, 5, 31, 21, 0, 0⟩]) [] ∧
        ¬ TotalsMatchPages [sampleEntrance "A" ⟨2024, 5, 31, 21, 0, 0⟩] ⟨2024, 5, 31, 0, 0, 0⟩
          ⟨2024, 5, 31, 23, 0, 0⟩
          (sampleStation .null ⟨2024, 5, 31, 0, 0, 0⟩ ⟨2024, 5, 31, 23, 0, 0⟩).serchInfo 10 [] []) ∧
      mySqlCtrlGetEntranceResidenceByTime
          [{ sampleEntrance "A" ⟨2024, 5, 31, 21, 0, 0⟩ with vehicleEnd := ⟨2024, 5, 31, 21, 20, 0⟩ }]
          ⟨2024, 5, 31, 0, 0, 0⟩ ⟨2024, 5, 31, 23, 0, 0⟩ .min3 = 1 ∧
        residenceRows
          [{ sampleEntrance "A" ⟨2024, 5, 31, 21, 0, 0⟩ with vehicleEnd := ⟨2024, 5, 31, 21, 20, 0⟩ }]
          ⟨2024, 5, 31, 0, 0, 0⟩ ⟨2024, 5, 31, 23, 0, 0⟩ = [] := by
  let _ : Server := Server.textual
  refine ⟨⟨⟨by simp, by decide +kernel, List.Pairwise.nil⟩, ?_⟩, by decide +kernel, by decide +kernel⟩
  intro h
  exact absurd h.total (by decide)

end SmartPlat.VehicleDataAnalysis
