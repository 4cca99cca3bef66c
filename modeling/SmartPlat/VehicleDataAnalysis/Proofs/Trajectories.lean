import SmartPlat.VehicleDataAnalysis.Trajectory
import SmartPlat.VehicleDataAnalysis.Proofs.Visits

set_option autoImplicit false

/-! # Trajectories and visits

The first capture with a plate builds a record, and every record that is built is written past its
end. Apart from that, as long as no plate is washed the table follows the visits row by row
(`rowOf_run`); a wash gets a row of its own, beside those of the visits. -/

namespace SmartPlat.VehicleDataAnalysis

open SmartPlat.Lib

variable {zeroDates : Bool} {s s' : StationTables} {c : StationCapture} {tr : List StationCapture}

/-! ## The property -/

/-- The wash session lies in the visit, by its start. -/
def DeviceWash.During (w : DeviceWash) (v : DeviceEntrance) : Prop :=
  w.plateNo = v.plateNo ∧ v.startSec ≤ timeLocalYMD2Sec w.vehicleStart ∧
    timeLocalYMD2Sec w.vehicleStart ≤ v.endSec

/-- `r` is the trajectory of the visit `v`. -/
structure RowOf (wash : List DeviceWash) (v : DeviceEntrance) (r : DeviceTrajectory) : Prop where
  plateNo : r.plateNo = v.plateNo
  arrivalstartdate : r.arrivalstartdate = v.vehicleStart
  arrivalenddate : r.arrivalenddate = v.vehicleEnd
  washed : (∃ w ∈ wash, w.During v) →
    ∃ w ∈ wash, w.During v ∧ r.washstartdate = w.vehicleStart ∧ r.washenddate = w.vehicleEnd
  unwashed : (∀ w ∈ wash, ¬ w.During v) →
    r.washstartdate = v.vehicleStart ∧ r.washenddate = v.vehicleStart

/-- The rows of the trajectory table are those of the visits, one for each. -/
def FollowsVisits (s : StationTables) : Prop :=
  ∃ rows : List DeviceTrajectory, rows.Perm s.trajectory ∧
    List.Forall₂ (RowOf s.wash) s.entrance rows

/-- After the captures `tr` the table follows the visits, and no record was written past its end. -/
def TrajectoryFollows (zeroDates : Bool) (tr : List StationCapture) : Prop :=
  ∀ s, Run (StationStep zeroDates) .empty tr s → FollowsVisits s ∧ WritesWithin datesSize s.writes

theorem FollowsVisits.length (h : FollowsVisits s) : s.trajectory.length = s.entrance.length := by
  obtain ⟨rows, hperm, hrows⟩ := h
  rw [← hperm.length_eq, hrows.length_eq]

/-! ## Building a record -/

theorem length_fromVehicleStart (vehicleStart vehicleEnd : TimeYMD) (behind : ℕ → ℕ) :
    (fromVehicleStart vehicleStart vehicleEnd behind).length = 32 := by
  simp [fromVehicleStart, timeWords]

theorem not_writesWithin_entrance (capture : DeviceEntrance) (behind : ℕ → ℕ) :
    ¬ WritesWithin datesSize (entranceWrites capture behind) := by
  intro h
  have hfirst := h ⟨offArrivalstartdate, _⟩ (List.mem_cons_self ..)
  rw [length_fromVehicleStart, offArrivalstartdate, datesSize] at hfirst
  omega

theorem not_writesWithin_wash (capture : DeviceWash) (behind : ℕ → ℕ) :
    ¬ WritesWithin datesSize (washWrites capture behind) := by
  intro h
  have hfirst := h ⟨offWashstartdate, _⟩ (List.mem_cons_self ..)
  rw [length_fromVehicleStart, offWashstartdate, datesSize] at hfirst
  omega

/-- The copies into later members repair what the earlier ones spilled into them. -/
theorem recordOf_entranceWrites (token plateNo : String) (capture : DeviceEntrance)
    (behind : ℕ → ℕ) :
    recordOf token plateNo (entranceWrites capture behind) =
      ⟨token, plateNo, capture.vehicleStart, capture.vehicleStart, capture.vehicleStart,
        capture.vehicleStart⟩ := rfl

/-! ## One capture -/

theorem StationStep.unplated (hp : c.plateNo = "") (h : StationStep zeroDates s c s') : s' = s := by
  cases c with
  | entrance c =>
      obtain ⟨fetched, behind, -, rfl⟩ := h
      rw [entrancePro, if_neg (by rw [show c.info.plateNo = "" from hp]; decide)]
  | wash c =>
      obtain ⟨fetched, behind, -, rfl⟩ := h
      rw [washPro, if_neg (by rw [show c.info.plateNo = "" from hp]; decide)]

theorem plate_length_pos {p : String} (hp : p ≠ "") : p.length > 0 := by
  rw [gt_iff_lt, Nat.pos_iff_ne_zero, Ne, String.length_eq_zero_iff]
  exact hp

/-- One outcome of a capture: rows in the order of the table, nothing behind the capture. -/
def stationPro (zeroDates : Bool) (s : StationTables) : StationCapture → StationTables
  | .entrance c =>
      entrancePro zeroDates (latestEntranceRows c.plateNo s.entrance) (fun _ => 0) c.info s
  | .wash c => washPro zeroDates (lastWashRows c.info.plateNo s.wash) (fun _ => 0) c.info s

theorem stationStep_stationPro (zeroDates : Bool) (s : StationTables) (c : StationCapture) :
    StationStep zeroDates s c (stationPro zeroDates s c) := by
  cases c with
  | entrance c => exact ⟨_, _, List.Perm.refl _, rfl⟩
  | wash c => exact ⟨_, _, List.Perm.refl _, rfl⟩

/-- What was written stays written. -/
theorem StationStep.writes (h : StationStep zeroDates s c s') :
    ∃ writes, s'.writes = s.writes ++ writes := by
  cases c with
  | entrance c =>
      obtain ⟨fetched, behind, -, rfl⟩ := h
      unfold entrancePro
      split
      · split
        · exact ⟨entranceWrites c.info behind, rfl⟩
        · exact ⟨[⟨offArrivalenddate, timeWords c.info.vehicleEnd⟩], rfl⟩
        · exact ⟨[], (List.append_nil _).symm⟩
      · exact ⟨[], (List.append_nil _).symm⟩
  | wash c =>
      obtain ⟨fetched, behind, -, rfl⟩ := h
      by_cases hplate : c.info.plateNo.length > 0
      · cases hfound : mySqlCtrlGetLastWashCarInfo c.info.plateNo fetched with
        | none =>
            simp only [washPro, if_pos hplate, hfound]
            exact ⟨washWrites c.info behind, rfl⟩
        | some info =>
            by_cases hhour : timeLocalYMD2Sec c.info.vehicleStart - timeLocalYMD2Sec info.vehicleStart > 60 * 60
            · simp only [washPro, if_pos hplate, hfound, if_pos hhour]
              exact ⟨washWrites c.info behind, rfl⟩
            · simp only [washPro, if_pos hplate, hfound, if_neg hhour]
              exact ⟨[⟨offWashenddate, timeWords c.info.vehicleEnd⟩], rfl⟩
      · simp only [washPro, if_neg hplate]
        exact ⟨[], (List.append_nil _).symm⟩

/-- The first capture with a plate finds no row of its plate, and builds a record. -/
theorem StationStep.first (hp : c.plateNo ≠ "") (h : StationStep zeroDates .empty c s') :
    ¬ WritesWithin datesSize s'.writes := by
  cases c with
  | entrance c =>
      obtain ⟨fetched, behind, hperm, rfl⟩ := h
      obtain rfl := List.perm_nil.1 hperm
      have hpos : c.info.plateNo.length > 0 := plate_length_pos hp
      rw [entrancePro, if_pos hpos, mySqlCtrlGetLatestEntranceInfo, if_neg (by omega)]
      exact not_writesWithin_entrance c.info behind
  | wash c =>
      obtain ⟨fetched, behind, hperm, rfl⟩ := h
      obtain rfl := List.perm_nil.1 hperm
      have hpos : c.info.plateNo.length > 0 := plate_length_pos hp
      rw [washPro, if_pos hpos, mySqlCtrlGetLastWashCarInfo, if_neg (by omega)]
      exact not_writesWithin_wash c.info behind

/-! ## Runs -/

/-- Nothing has happened, or a record was written past its end. -/
theorem run_untouched_or (h : Run (StationStep zeroDates) .empty tr s) :
    ((∀ c ∈ tr, c.plateNo = "") ∧ s = .empty) ∨
      ((∃ c ∈ tr, c.plateNo ≠ "") ∧ ¬ WritesWithin datesSize s.writes) := by
  refine h.invariant (fun tr s => ((∀ c ∈ tr, c.plateNo = "") ∧ s = .empty) ∨
    ((∃ c ∈ tr, c.plateNo ≠ "") ∧ ¬ WritesWithin datesSize s.writes)) (Or.inl ⟨by simp, rfl⟩) ?_
  intro tr s c s' hI hs
  rcases hI with ⟨hall, rfl⟩ | ⟨⟨d, hd, hdp⟩, hout⟩
  · by_cases hp : c.plateNo = ""
    · refine Or.inl ⟨?_, hs.unplated hp⟩
      simpa [or_imp, forall_and] using ⟨hall, hp⟩
    · exact Or.inr ⟨⟨c, by simp, hp⟩, hs.first hp⟩
  · refine Or.inr ⟨⟨d, List.mem_append_left _ hd, hdp⟩, ?_⟩
    obtain ⟨writes, hw⟩ := hs.writes
    rw [hw, writesWithin_append]
    exact fun hin => hout hin.1

theorem exists_stationRun (zeroDates : Bool) (tr : List StationCapture) :
    ∃ s, Run (StationStep zeroDates) .empty tr s := by
  induction tr using List.reverseRecOn with
  | nil => exact ⟨_, .nil⟩
  | append_singleton tr c ih =>
      obtain ⟨s, hrun⟩ := ih
      exact ⟨_, hrun.snoc (stationStep_stationPro zeroDates s c)⟩

/-- **Trajectories.** The table follows the visits, with every record written within its bounds, after
    exactly the histories in which no plate was read. -/
theorem trajectoryFollows_iff (zeroDates : Bool) (tr : List StationCapture) :
    TrajectoryFollows zeroDates tr ↔ ∀ c ∈ tr, c.plateNo = "" := by
  constructor
  · intro h
    obtain ⟨s, hrun⟩ := exists_stationRun zeroDates tr
    rcases run_untouched_or hrun with ⟨hall, -⟩ | ⟨-, hout⟩
    · exact hall
    · exact absurd (h s hrun).2 hout
  · intro hall s hrun
    rcases run_untouched_or hrun with ⟨-, rfl⟩ | ⟨⟨c, hc, hp⟩, -⟩
    · exact ⟨⟨[], List.Perm.nil, .nil⟩, fun w hw => nomatch hw⟩
    · exact absurd (hall c hc) hp

/-- A visit with one wash: the wash gets a row of its own, and both records are written past their
    end. -/
theorem wash_adds_row :
    ∃ s, Run (StationStep true) .empty
        [.entrance (sampleCapture "1" "A" 0), .wash (sampleWash "2" "A" 2)] s ∧
      s.entrance.length = 1 ∧ s.wash.length = 1 ∧ s.trajectory.length = 2 ∧ ¬ FollowsVisits s ∧
      ¬ WritesWithin datesSize s.writes := by
  have h := (Run.nil : Run (StationStep true) .empty [] _)
    |>.snoc (stationStep_stationPro true .empty (.entrance (sampleCapture "1" "A" 0)))
    |>.snoc (stationStep_stationPro true _ (.wash (sampleWash "2" "A" 2)))
  refine ⟨_, h, by decide, by decide, by decide, ?_, ?_⟩
  · intro hfollows
    exact absurd hfollows.length (by decide)
  · rcases run_untouched_or h with ⟨hall, -⟩ | ⟨-, hout⟩
    · exact absurd (hall _ (List.mem_cons_self ..)) (by decide)
    · exact hout

/-! ## Visits without a wash -/

/-- The row of a visit of which nothing else is known. -/
def visitRow (v : DeviceEntrance) : DeviceTrajectory :=
  ⟨v.snapToken, v.plateNo, v.vehicleStart, v.vehicleEnd, v.vehicleStart, v.vehicleStart⟩

theorem visitRow_snapToken (v : DeviceEntrance) : (visitRow v).snapToken = v.snapToken := rfl

/-- The trajectory table is a copy of the entrance table. -/
structure Mirrors (s : StationTables) : Prop where
  ok : TableOk s.entrance
  unwashed : s.wash = []
  rows : s.trajectory = s.entrance.map visitRow

theorem addTrajectoryInfo_visitRow {v : DeviceEntrance} (h : v.vehicleStart.Valid)
    (h' : v.vehicleEnd.Valid) (t : EntranceTable) :
    (mySqlCtrlAddTrajectoryInfo zeroDates (visitRow v) (t.map visitRow)).2 =
      (mySqlCtrlAddEntranceInfo v t).2.map visitRow := by
  have hdates : zeroTime ∉ [(visitRow v).arrivalstartdate, (visitRow v).arrivalenddate,
      (visitRow v).washstartdate, (visitRow v).washenddate] := by
    simp [visitRow, (ne_zeroTime h).symm, (ne_zeroTime h').symm]
  rw [mySqlCtrlAddTrajectoryInfo, if_neg (by simp [hdates]),
    insertRow_map visitRow visitRow_snapToken, mySqlCtrlAddEntranceInfo]
  cases insertRow DeviceEntrance.snapToken v t <;> rfl

theorem updateTrajectoryInfo_visitRow {t : EntranceTable} (hkeyed : Keyed DeviceEntrance.snapToken t)
    (token : String) (capture : DeviceEntrance) :
    (mysqlCtrlUpdateTrajectoryInfo token
        { mySqlCtrlGetTrajectoryInfo token (t.map visitRow) with
          arrivalenddate := capture.vehicleEnd } (t.map visitRow)).2 =
      (mysqlCtrlUpdateEntranceInfo token capture t).2.map visitRow := by
  rw [mysqlCtrlUpdateTrajectoryInfo, mysqlCtrlUpdateEntranceInfo]
  refine (map_updateWhere_map visitRow visitRow_snapToken fun r hr hk => ?_).symm
  -- the record that is read back is that of this row
  have hfind : (t.map visitRow).find? (fun r => r.snapToken = token) = some (visitRow r) := by
    rw [List.find?_map, Option.map_eq_some_iff]
    refine ⟨r, ?_, rfl⟩
    cases hf : t.find? ((fun r : DeviceTrajectory => decide (r.snapToken = token)) ∘ visitRow) with
    | none =>
        have hnot := List.find?_eq_none.1 hf r hr
        exact absurd (decide_eq_true hk) hnot
    | some q =>
        have hq := List.find?_some hf
        have hqtok : q.snapToken = token := of_decide_eq_true hq
        rw [hkeyed.eq_of_mem (List.mem_of_find?_eq_some hf) hr (hqtok.trans hk.symm)]
  simp only [mySqlCtrlGetTrajectoryInfo, hfind]
  rfl

theorem Mirrors.step {c : EntranceCapture} (h : Mirrors s)
    (hs : StationStep zeroDates s (.entrance c) s') : Mirrors s' := by
  obtain ⟨fetched, behind, hperm, rfl⟩ := hs
  by_cases hp : c.plateNo = ""
  · rwa [entrancePro, if_neg (by rw [show c.info.plateNo = "" from hp]; decide)]
  · have hpos : c.info.plateNo.length > 0 := plate_length_pos hp
    have hout := (EntranceStep.outcome h.ok hp ⟨fetched, hperm, rfl⟩).tableOk h.ok
    rw [memoryDataToDatabasePro, if_pos hpos] at hout
    rw [entrancePro, if_pos hpos]
    cases hact : entranceAction (mySqlCtrlGetLatestEntranceInfo c.info.plateNo fetched) c.info with
    | newVisit =>
        rw [hact] at hout
        refine ⟨hout, h.unwashed, ?_⟩
        have hrow : recordOf c.info.snapToken c.info.plateNo (entranceWrites c.info behind) =
            visitRow c.info := by
          rw [recordOf_entranceWrites, visitRow, c.instant]
        dsimp only
        rw [hrow, h.rows]
        exact addTrajectoryInfo_visitRow c.valid (by rw [c.instant]; exact c.valid) s.entrance
    | setEnd token =>
        rw [hact] at hout
        refine ⟨hout, h.unwashed, ?_⟩
        dsimp only
        rw [h.rows]
        exact updateTrajectoryInfo_visitRow h.ok.keyed token c.info
    | leave => exact h

theorem Mirrors.followsVisits (h : Mirrors s) : FollowsVisits s := by
  refine ⟨s.trajectory, List.Perm.refl _, ?_⟩
  rw [h.rows, h.unwashed, List.forall₂_map_right_iff, List.forall₂_same]
  intro v _
  exact ⟨rfl, rfl, rfl, fun ⟨w, hw, _⟩ => (nomatch hw), fun _ => ⟨rfl, rfl⟩⟩

/-- **Unwashed visits.** As long as no plate is read at the wash, the table is a copy of the entrance
    table, and so follows the visits. -/
theorem followsVisits_of_unwashed (h : Run (StationStep zeroDates) .empty tr s)
    (hwash : ∀ c, StationCapture.wash c ∈ tr → c.info.plateNo = "") : FollowsVisits s := by
  have hmirrors : Mirrors s := by
    refine h.invariant (fun tr s => (∀ c, StationCapture.wash c ∈ tr → c.info.plateNo = "") →
      Mirrors s) ?_ ?_ hwash
    · intro _
      exact ⟨⟨by simp [StationTables.empty, Keyed], fun r hr => nomatch hr⟩, rfl, rfl⟩
    · intro tr s c s' hI hs hwash
      have hm := hI fun c hc => hwash c (List.mem_append_left _ hc)
      cases c with
      | entrance c => exact hm.step hs
      | wash c =>
          have hp : (StationCapture.wash c).plateNo = "" := hwash c (by simp)
          rw [hs.unplated hp]
          exact hm
  exact hmirrors.followsVisits

end SmartPlat.VehicleDataAnalysis
