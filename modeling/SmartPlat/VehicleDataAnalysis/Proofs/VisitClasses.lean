import SmartPlat.Lib.GroupBy
import SmartPlat.Lib.Transition
import SmartPlat.VehicleDataAnalysis.Reports

set_option autoImplicit false

/-! # The classes of the visits and of the trajectories

A class that is what is left of the total is asked for last. Until then visits are added and ends are moved,
but no visit goes away or changes its start, its area or its type: the total has only grown. -/

namespace SmartPlat.VehicleDataAnalysis

open SmartPlat.Lib SmartPlat.MySql

variable {t t₁ t₂ t₃ : EntranceTable} {areas : List PlatNoArea} {startTime endTime : TimeYMD}
  {location : FuzzyStr}

/-! ## What the database thread leaves as it is -/

/-- All of a visit but its end. -/
def DeviceEntrance.fixed (r : DeviceEntrance) : DeviceEntrance := { r with vehicleEnd := zeroTime }

/-- The visits of `t` are still there, and others may have come after them. -/
def Extends (t t' : EntranceTable) : Prop :=
  t.map DeviceEntrance.fixed <+: t'.map DeviceEntrance.fixed

theorem extends_run (t : EntranceTable) (w : EntranceWrite) : Extends t (w.run t) := by
  cases w with
  | add info =>
    rw [EntranceWrite.run, mySqlCtrlAddEntranceInfo]
    split
    · exact List.prefix_rfl
    · next t' hinsert =>
      obtain ⟨-, rfl⟩ := insertRow_eq_some_iff.1 hinsert
      rw [Extends, List.map_append]
      exact List.prefix_append _ _
  | setEnd token info =>
    have hsame : (EntranceWrite.run t (.setEnd token info)).map DeviceEntrance.fixed =
        t.map DeviceEntrance.fixed := map_updateWhere _ fun _ => rfl
    rw [Extends, hsame]

/-- A statement that does not ask for the end counts no less later. -/
theorem Extends.countP_le (h : Extends t₁ t₂) {p : DeviceEntrance → Bool}
    (hp : ∀ r, p r.fixed = p r) : t₁.countP p ≤ t₂.countP p := by
  have hfixed : ∀ t : EntranceTable, (t.map DeviceEntrance.fixed).countP p = t.countP p := by
    intro t
    rw [List.countP_map]
    exact List.countP_congr fun r _ => by rw [Function.comp_apply, hp]
  rw [← hfixed t₁, ← hfixed t₂]
  exact h.sublist.countP_le

/-- What the statements of a report have seen is, one after another, up to the table of now. -/
structure SeenInOrder (s : ReportState) : Prop where
  order : s.seen.Pairwise Extends
  now : ∀ t ∈ s.seen, Extends t s.table

theorem SeenInOrder.step {s s' : ReportState} {e : ReportEvent} (h : SeenInOrder s)
    (hs : reportStep s e s') : SeenInOrder s' := by
  subst hs
  cases e with
  | write w => exact ⟨h.order, fun t ht => (h.now t ht).trans (extends_run s.table w)⟩
  | statement =>
    constructor
    · refine List.pairwise_append.2 ⟨h.order, List.pairwise_singleton _ _, fun t ht u hu => ?_⟩
      obtain rfl := List.mem_singleton.1 hu
      exact h.now t ht
    · intro t ht
      rcases List.mem_append.1 ht with hseen | hlast
      · exact h.now t hseen
      · obtain rfl := List.mem_singleton.1 hlast
        exact List.prefix_rfl

theorem seenInOrder_run {tr : List ReportEvent} {s : ReportState} (h : Run reportStep ⟨t, []⟩ tr s) :
    SeenInOrder s :=
  h.stateInvariant SeenInOrder ⟨List.Pairwise.nil, fun _ ht => absurd ht List.not_mem_nil⟩
    fun _ _ _ hinv hs => hinv.step hs

/-! ## One table -/

theorem sum_all_eq [Server] (t : EntranceTable) (startTime endTime : TimeYMD) :
    mySqlCtrlGetEntranceListSumBySerchType t startTime endTime
        { vehicleSerch vehicletypeAll with type := ⟨false, false, false, false, false⟩ } =
      mySqlCtrlGetEntranceListSumByTime t startTime endTime := by
  refine mySqlCtrlGetEntranceListSumBySerchType_eq t fun r => ?_
  simp [serchTypeConds, serchTypeFilters, Cond.holds]

/-- The visits of a vehicle type. -/
def ofType [Server] (startTime endTime : TimeYMD) (vehicleType : ℤ) (r : DeviceEntrance) : Bool :=
  inWindow startTime endTime r.vehicleStart && r.vehicleType = vehicleType

theorem sum_vehicle_eq [Server] (t : EntranceTable) (startTime endTime : TimeYMD) (vehicleType : ℤ) :
    mySqlCtrlGetEntranceListSumBySerchType t startTime endTime (vehicleSerch vehicleType) =
      t.countP (ofType startTime endTime vehicleType) := by
  refine mySqlCtrlGetEntranceListSumBySerchType_eq t fun r => ?_
  simp [serchTypeConds, serchTypeFilters, vehicleSerch, Cond.holds, ofType]

/-- The vehicles that run on diesel are no more than all. -/
theorem diesel_le [Server] (t : EntranceTable) (startTime endTime : TimeYMD) :
    t.countP (ofType startTime endTime 2) + t.countP (ofType startTime endTime 1) ≤
      mySqlCtrlGetEntranceListSumByTime t startTime endTime := by
  have hle : (countsIn (ofType startTime endTime) [2, 1] t).sum ≤
      mySqlCtrlGetEntranceListSumByTime t startTime endTime := by
    refine sum_countsIn_le fun r _ => ?_
    cases hin : inWindow startTime endTime r.vehicleStart with
    | false => simp [ofType, hin]
    | true =>
      simp only [ofType, hin, Bool.true_and, List.countP_cons, List.countP_nil, decide_eq_true_iff,
        if_true]
      split_ifs <;> omega
  simpa [countsIn] using hle

/-- The visits of a class of the residence time. -/
def ofResidence [Server] (startTime endTime : TimeYMD) (type : ResidenceType) (r : DeviceEntrance) : Bool :=
  inWindow startTime endTime r.vehicleStart &&
    match type with
    | .none => false
    | .min1 => r.staytime ≤ 5 * 60
    | .min2 => r.staytime > 5 * 60 && r.staytime < 20 * 60
    | .min3 => r.staytime ≥ 20 * 60

theorem residence_sum [Server] (t : EntranceTable) (startTime endTime : TimeYMD) :
    mySqlCtrlGetEntranceResidenceByTime t startTime endTime .min1 +
        mySqlCtrlGetEntranceResidenceByTime t startTime endTime .min2 +
        mySqlCtrlGetEntranceResidenceByTime t startTime endTime .min3 =
      mySqlCtrlGetEntranceListSumByTime t startTime endTime := by
  have hsum : (countsIn (ofResidence startTime endTime) [.min1, .min2, .min3] t).sum =
      mySqlCtrlGetEntranceListSumByTime t startTime endTime := by
    refine sum_countsIn_eq fun r _ => ?_
    cases hin : inWindow startTime endTime r.vehicleStart with
    | false => simp [ofResidence, hin]
    | true =>
      -- a stay lies on one side of each of the two thresholds
      simp only [ofResidence, hin, Bool.true_and, List.countP_cons, List.countP_nil, decide_eq_true_iff,
        Bool.and_eq_true, if_true]
      split_ifs <;> omega
  have hcounts : countsIn (ofResidence startTime endTime) [.min1, .min2, .min3] t =
      [mySqlCtrlGetEntranceResidenceByTime t startTime endTime .min1,
        mySqlCtrlGetEntranceResidenceByTime t startTime endTime .min2,
        mySqlCtrlGetEntranceResidenceByTime t startTime endTime .min3] := rfl
  rw [hcounts] at hsum
  simpa [← Nat.add_assoc] using hsum

theorem province_le [Server] (areas : List PlatNoArea) (t : EntranceTable) (startTime endTime : TimeYMD)
    (location : FuzzyStr) :
    mySqlCtrlGetEntranceListSumByLocation areas t startTime endTime location ≤
      mySqlCtrlGetEntranceListSumByTime t startTime endTime :=
  List.countP_mono_left fun _ _ h => (Bool.and_eq_true_iff.1 h).1

theorem plateAnalysis_eq [Server] (areas : List PlatNoArea) (t₁ t₂ : EntranceTable)
    (startTime endTime : TimeYMD) (location : FuzzyStr) :
    getEntrancePlateAnalysis areas t₁ t₂ startTime endTime location =
      some ⟨mySqlCtrlGetEntranceListSumByLocation areas t₁ startTime endTime location,
        mySqlCtrlGetEntranceListSumByTime t₂ startTime endTime -
          mySqlCtrlGetEntranceListSumByLocation areas t₁ startTime endTime location⟩ := by
  rw [getEntrancePlateAnalysis, if_neg (Int.not_lt.2 (Int.natCast_nonneg _)),
    if_neg (Int.not_lt.2 (Int.natCast_nonneg _))]

/-! ## Statements at different times -/

theorem province_le_later [Server] (h : Extends t₁ t₂) :
    mySqlCtrlGetEntranceListSumByLocation areas t₁ startTime endTime location ≤
      mySqlCtrlGetEntranceListSumByTime t₂ startTime endTime :=
  calc mySqlCtrlGetEntranceListSumByLocation areas t₁ startTime endTime location
    _ ≤ mySqlCtrlGetEntranceListSumByTime t₁ startTime endTime := province_le _ _ _ _ _
    _ ≤ mySqlCtrlGetEntranceListSumByTime t₂ startTime endTime := h.countP_le fun _ => rfl

theorem diesel_le_later [Server] (startTime endTime : TimeYMD) (h₁ : Extends t₁ t₃) (h₂ : Extends t₂ t₃) :
    t₁.countP (ofType startTime endTime 2) + t₂.countP (ofType startTime endTime 1) ≤
      mySqlCtrlGetEntranceListSumByTime t₃ startTime endTime :=
  calc t₁.countP (ofType startTime endTime 2) + t₂.countP (ofType startTime endTime 1)
    _ ≤ t₃.countP (ofType startTime endTime 2) + t₃.countP (ofType startTime endTime 1) :=
        Nat.add_le_add (h₁.countP_le fun _ => rfl) (h₂.countP_le fun _ => rfl)
    _ ≤ mySqlCtrlGetEntranceListSumByTime t₃ startTime endTime := diesel_le _ _ _

/-! ## The reports -/

/-- The classes of each report add up to the visits of the window, and none is negative, whatever the
    database thread does between the statements. -/
structure ClassesPartition [Server] (areas : List PlatNoArea) (startTime endTime : TimeYMD)
    (location : FuzzyStr) : Prop where
  residence : ∀ t, (getResidenceTimeAnalysis t t t startTime endTime).count1 +
      (getResidenceTimeAnalysis t t t startTime endTime).count2 +
      (getResidenceTimeAnalysis t t t startTime endTime).count3 =
    mySqlCtrlGetEntranceListSumByTime t startTime endTime
  places : ∀ t, ∃ place, getEntrancePlateAnalysis areas t t startTime endTime location = some place ∧
    place.ProvinceCount + place.OutProvinceCount = mySqlCtrlGetEntranceListSumByTime t startTime endTime
  fuels : ∀ t, (getRefuelingTypeAnalysis t t t startTime endTime).GasolineCount +
      (getRefuelingTypeAnalysis t t t startTime endTime).DieselOilCount =
    mySqlCtrlGetEntranceListSumByTime t startTime endTime
  placesLater : ∀ t tr s t₁ t₂, Run reportStep ⟨t, []⟩ tr s → s.seen = [t₁, t₂] →
    ∃ place, getEntrancePlateAnalysis areas t₁ t₂ startTime endTime location = some place ∧
      0 ≤ place.ProvinceCount ∧ 0 ≤ place.OutProvinceCount
  fuelsLater : ∀ t tr s t₁ t₂ t₃, Run reportStep ⟨t, []⟩ tr s → s.seen = [t₁, t₂, t₃] →
    0 ≤ (getRefuelingTypeAnalysis t₁ t₂ t₃ startTime endTime).GasolineCount ∧
      0 ≤ (getRefuelingTypeAnalysis t₁ t₂ t₃ startTime endTime).DieselOilCount
  residenceLater : ∀ t tr s t₁ t₂ t₃, Run reportStep ⟨t, []⟩ tr s → s.seen = [t₁, t₂, t₃] →
    0 ≤ (getResidenceTimeAnalysis t₁ t₂ t₃ startTime endTime).count1 ∧
      0 ≤ (getResidenceTimeAnalysis t₁ t₂ t₃ startTime endTime).count2 ∧
      0 ≤ (getResidenceTimeAnalysis t₁ t₂ t₃ startTime endTime).count3

variable {t : List DeviceTrajectory} {startTime endTime : TimeYMD}
  {wash : List DeviceWash} {entrance : EntranceTable} {r : DeviceTrajectory}

/-! ## The classes -/

inductive WashClass where
  | addWithoutWash
  | washWithoutAdd
  | addAndWash
  | washAndAdd
  deriving DecidableEq, Repr

/-- The condition of a class, without the window. -/
def WashClass.holds [Server] (r : DeviceTrajectory) : WashClass → Bool
  | addWithoutWash => r.arrivalstartdate = r.washstartdate
  | washWithoutAdd => r.endGap > 0 && r.endGap < 60
  | addAndWash => r.arrivalstartdate ≠ r.washstartdate && r.startGap > 3 * 60
  | washAndAdd => r.arrivalstartdate ≠ r.washstartdate && r.endGap > 5 * 60

/-- The trajectory is counted for the class. -/
def washFalls [Server] (startTime endTime : TimeYMD) (c : WashClass)
    (r : DeviceTrajectory) : Bool :=
  c.holds r && inWindow startTime endTime r.arrivalstartdate

/-- The order of the counts below. -/
def washClasses : List WashClass := [.addWithoutWash, .washWithoutAdd, .addAndWash, .washAndAdd]

/-- The four counts of `GetProportionOfCarWashing`, as the trajectory table changes. -/
def washCounts [Server] (startTime endTime : TimeYMD) (wash : List DeviceWash)
    (entrance : EntranceTable) (t : List DeviceTrajectory) : List ℕ :=
  let w := getProportionOfCarWashing t startTime endTime wash entrance
  [w.addwithOutwashnum, w.washwithOutaddnum, w.addandwashnum, w.washandaddnum]

theorem washCounts_eq [Server] (startTime endTime : TimeYMD)
    (wash : List DeviceWash) (entrance : EntranceTable) :
    washCounts startTime endTime wash entrance =
      countsIn (washFalls startTime endTime) washClasses := by
  funext t
  simp only [washCounts, getProportionOfCarWashing, mysqlCtrlGetaddWithoutWashNum,
    mysqlCtrlGetWashWithoutaddNum, mysqlCtrlGetaddAndwashNum, mysqlCtrlGetwashAndaddNum, washClasses,
    countsIn, List.map_cons, List.map_nil]
  rfl

/-! ## Trajectories of two classes -/

/-- A wash that ended less than a minute before the visit did not begin together with it, nor more than three
    minutes before it; and a wash that began more than three minutes before the visit ended at most five
    minutes before it. -/
def OneClass [Server] (r : DeviceTrajectory) : Prop :=
  (0 < r.endGap → r.endGap < 60 →
    r.arrivalstartdate ≠ r.washstartdate ∧ r.startGap ≤ 180) ∧
  (180 < r.startGap → r.endGap ≤ 300)

instance [Server] (r : DeviceTrajectory) : Decidable (OneClass r) :=
  inferInstanceAs (Decidable ((_ → _ → _ ∧ _) ∧ (_ → _)))

theorem ne_of_startGap [Server] (h : 180 < r.startGap) : r.arrivalstartdate ≠ r.washstartdate := by
  intro heq
  rw [DeviceTrajectory.startGap, heq, sub_self] at h
  exact absurd h (by decide)

/-- The four conditions exclude each other on a trajectory exactly if it is of one class. -/
theorem classes_exclusive_iff [Server] :
    (∀ c c' : WashClass, c.holds r = true → c'.holds r = true → c = c') ↔
      OneClass r := by
  constructor
  · intro h
    refine ⟨fun h0 h60 => ⟨fun heq => ?_, ?_⟩, fun h180 => ?_⟩
    · have hsame := h .addWithoutWash .washWithoutAdd (by simpa [WashClass.holds] using heq)
        (by simp [WashClass.holds, h0, h60])
      cases hsame
    · by_contra hgap
      have h180 := Int.lt_of_not_ge hgap
      have hsame := h .washWithoutAdd .addAndWash (by simp [WashClass.holds, h0, h60])
        (by simpa [WashClass.holds, ne_of_startGap h180] using h180)
      cases hsame
    · by_contra hgap
      have h300 := Int.lt_of_not_ge hgap
      have hsame := h .addAndWash .washAndAdd
        (by simpa [WashClass.holds, ne_of_startGap h180] using h180)
        (by simpa [WashClass.holds, ne_of_startGap h180] using h300)
      cases hsame
  · rintro ⟨hminute, hlong⟩ c c' hc hc'
    -- an equal start excludes the last two, and a minute is less than five
    cases c <;> cases c' <;> simp only [WashClass.holds, Bool.and_eq_true, decide_eq_true_iff] at hc hc' <;>
      grind

/-! ## The report -/

/-- The four counts are about disjoint sets of trajectories of the window, and add up to no more than there
    are. -/
structure ClassesDisjoint [Server] (startTime endTime : TimeYMD)
    (wash : List DeviceWash) (entrance : EntranceTable) (t : List DeviceTrajectory) : Prop where
  counts : CountsEvents (washCounts startTime endTime wash entrance) 4 t
  disjoint : ∀ r ∈ t, ∀ i < 4, ∀ j < 4,
    CountedIn (washCounts startTime endTime wash entrance) r i →
      CountedIn (washCounts startTime endTime wash entrance) r j → i = j
  within : ∀ r ∈ t, ∀ i < 4, CountedIn (washCounts startTime endTime wash entrance) r i →
    inWindow startTime endTime r.arrivalstartdate = true
  sum_le : (washCounts startTime endTime wash entrance t).sum ≤
    t.countP fun r => inWindow startTime endTime r.arrivalstartdate

theorem countedIn_washCounts [Server] {i : ℕ} :
    CountedIn (washCounts startTime endTime wash entrance) r i ↔
      ∃ c, washClasses[i]? = some c ∧ c.holds r = true ∧
        inWindow startTime endTime r.arrivalstartdate = true := by
  rw [washCounts_eq, countedIn_countsIn]
  refine exists_congr fun c => and_congr_right fun _ => ?_
  rw [washFalls, Bool.and_eq_true]

theorem washClasses_complete : ∀ c : WashClass, ∃ i < 4, washClasses[i]? = some c
  | .addWithoutWash => ⟨0, by decide, rfl⟩
  | .washWithoutAdd => ⟨1, by decide, rfl⟩
  | .addAndWash => ⟨2, by decide, rfl⟩
  | .washAndAdd => ⟨3, by decide, rfl⟩

theorem washClasses_nodup : washClasses.Nodup := by decide

theorem washCounts_sum_le [Server] (h : ∀ r ∈ t, inWindow startTime endTime r.arrivalstartdate = true →
      OneClass r) :
    (washCounts startTime endTime wash entrance t).sum ≤
      t.countP fun r => inWindow startTime endTime r.arrivalstartdate := by
  rw [washCounts_eq]
  refine sum_countsIn_le fun r hr => ?_
  split
  · next hin =>
    refine countP_le_one washClasses_nodup fun c c' hc hc' => ?_
    rw [washFalls, Bool.and_eq_true] at hc hc'
    exact classes_exclusive_iff.2 (h r hr hin) c c' hc.1 hc'.1
  · next hout =>
    rw [Nat.le_zero, List.countP_eq_zero]
    intro c _ hc
    rw [washFalls, Bool.and_eq_true] at hc
    exact hout hc.2

/-- The report of the proportions counts no trajectory twice where every one of the window is of one class. -/
theorem behavior_le [Server] (h : ∀ r ∈ t, inWindow startTime endTime r.arrivalstartdate = true →
      OneClass r) :
    (getProportionOfVehicleBehavior t startTime endTime).oilcount +
        (getProportionOfVehicleBehavior t startTime endTime).washcount +
        (getProportionOfVehicleBehavior t startTime endTime).meanwhilecount ≤
      t.countP fun r => inWindow startTime endTime r.arrivalstartdate := by
  have hsum : (washCounts startTime endTime [] [] t).sum ≤ _ := washCounts_sum_le h
  simp only [washCounts, getProportionOfCarWashing, List.sum_cons, List.sum_nil] at hsum
  simp only [getProportionOfVehicleBehavior]
  omega

/-- **When the classes are disjoint.** For every table and window, and whatever the time zone of the server:
    exactly if every trajectory of the window is of one class. -/
theorem classesDisjoint_iff [Server] (startTime endTime : TimeYMD)
    (wash : List DeviceWash) (entrance : EntranceTable) (t : List DeviceTrajectory) :
    ClassesDisjoint startTime endTime wash entrance t ↔
      ∀ r ∈ t, inWindow startTime endTime r.arrivalstartdate = true → OneClass r := by
  constructor
  · intro h r hr hin
    refine classes_exclusive_iff.1 fun c c' hc hc' => ?_
    obtain ⟨i, hi, hic⟩ := washClasses_complete c
    obtain ⟨j, hj, hjc⟩ := washClasses_complete c'
    have hij := h.disjoint r hr i hi j hj (countedIn_washCounts.2 ⟨c, hic, hc, hin⟩)
      (countedIn_washCounts.2 ⟨c', hjc, hc', hin⟩)
    rw [hij, hjc] at hic
    exact (Option.some.inj hic).symm
  · intro h
    refine ⟨?_, fun r hr i hi j hj hri hrj => ?_, fun r hr i _ hri => ?_, washCounts_sum_le h⟩
    · rw [washCounts_eq]
      exact countsEvents_countsIn
    · obtain ⟨c, hic, hc, hin⟩ := countedIn_washCounts.1 hri
      obtain ⟨c', hjc, hc', -⟩ := countedIn_washCounts.1 hrj
      obtain rfl := classes_exclusive_iff.2 (h r hr hin) c c' hc hc'
      exact (List.getElem?_inj (show i < washClasses.length from hi) washClasses_nodup).1 (hic.trans hjc.symm)
    · obtain ⟨c, -, -, hin⟩ := countedIn_washCounts.1 hri
      exact hin

/-- A visit of half an hour, and the wash that began at `ws` and ended at `we` minutes past nine. -/
def visitAtTen (ws we : ℕ) : DeviceTrajectory :=
  ⟨"a", "A", ⟨2024, 5, 31, 10, 0, 0⟩, ⟨2024, 5, 31, 10, 30, 0⟩, ⟨2024, 5, 31, 9, ws, 0⟩,
    ⟨2024, 5, 31, 9, we, 0⟩⟩

/-- A car that was washed and then fuelled is counted among those that were, and among those that were
    fuelled and then washed: one trajectory makes two. -/
theorem washed_then_fuelled_twice :
    letI : Server := Server.textual
    ¬ ClassesDisjoint ⟨2024, 5, 1, 0, 0, 0⟩ ⟨2024, 6, 1, 0, 0, 0⟩ [] []
        [visitAtTen 30 40] ∧
      washCounts ⟨2024, 5, 1, 0, 0, 0⟩ ⟨2024, 6, 1, 0, 0, 0⟩ [] [] [visitAtTen 30 40] =
        [0, 0, 1, 1] := by
  let _ : Server := Server.textual
  have hcounts : washCounts ⟨2024, 5, 1, 0, 0, 0⟩ ⟨2024, 6, 1, 0, 0, 0⟩ [] []
      [visitAtTen 30 40] = [0, 0, 1, 1] := by decide +kernel
  refine ⟨fun h => ?_, hcounts⟩
  have hle := h.sum_le
  rw [hcounts] at hle
  exact absurd hle (by decide)

end SmartPlat.VehicleDataAnalysis
