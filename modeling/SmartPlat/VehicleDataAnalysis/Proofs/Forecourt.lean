import SmartPlat.VehicleDataAnalysis.Forecourt
import SmartPlat.Lib.Transition

set_option autoImplicit false

/-! # Rows and runs of captures

The frontage and the island table are tables with one row for each run, with half an hour and eight
minutes between runs. The row that is found has the time of the plate's latest; it is the plate's own
unless another plate has a row of the same second that the server returns after it. -/

namespace SmartPlat.VehicleDataAnalysis

open SmartPlat.Lib

/-! ## The two tables -/

def frontageColumns : Columns FrontageVisit String String where
  key r := r.id
  owner r := r.planNo
  time r := timeLocalYMD2Sec r.date
  retime c r := { r with toFrontageRow := { r.toFrontageRow with date := c.date } }
  Ok r := r.date.Valid
  key_retime _ _ := rfl
  owner_retime _ _ := rfl
  time_retime _ _ := rfl
  ok_retime h := h
  retime_self hc hr h := by
    rw [TimeYMD.eq_of_sec_eq hc hr h]

def islandColumns : Columns DeviceOilLand String String where
  key r := r.snapToken
  owner r := r.plateNo
  time r := timeLocalYMD2Sec r.snaptime
  retime c r := { r with snaptime := c.snaptime }
  Ok r := r.snaptime.Valid
  key_retime _ _ := rfl
  owner_retime _ _ := rfl
  time_retime _ _ := rfl
  ok_retime h := h
  retime_self hc hr h := by
    rw [TimeYMD.eq_of_sec_eq hc hr h]

theorem foundSec_of_valid {time : TimeYMD} (h : time.Valid) : foundSec time = timeLocalYMD2Sec time :=
  if_neg (ne_zeroTime h)

theorem addFrontageInfo_eq {t : FrontageTable} (hcolumn : t.hasPlanNo = true) (c : StreetCapture) :
    (mySqlCtrlAddFrontageInfo c t).2.rows = frontageColumns.insert c.row t.rows := by
  have hinsert : frontageColumns.insert c.row t.rows =
      (insertRow (fun r : FrontageVisit => r.id) c.row t.rows).getD t.rows := rfl
  rw [hinsert, mySqlCtrlAddFrontageInfo, if_pos hcolumn]
  cases insertRow (fun r : FrontageVisit => r.id) c.row t.rows <;> rfl

theorem frontageBranch_eq {t : FrontageTable} (hcolumn : t.hasPlanNo = true)
    {fetched : Option (List FrontageVisit)} {c : StreetCapture}
    (hvalid : ∀ r ∈ mySqlCtrlGetLatestFrontageInfo c.plateNo fetched, r.date.Valid) :
    (frontageBranch fetched c t).rows = frontageColumns.slide (30 * 60)
      (mySqlCtrlGetLatestFrontageInfo c.plateNo fetched) c.row t.rows := by
  cases hfound : mySqlCtrlGetLatestFrontageInfo c.plateNo fetched with
  | none =>
      have hopens : opensFrontage fetched c = none := by rw [opensFrontage, hfound]
      rw [frontageBranch, hopens]
      exact addFrontageInfo_eq hcolumn c
  | some info =>
      have htime : frontageColumns.time c.row - frontageColumns.time info =
          timeLocalYMD2Sec c.time - foundSec info.date := by
        rw [foundSec_of_valid (hvalid info hfound)]
        rfl
      by_cases hfar : timeLocalYMD2Sec c.time - foundSec info.date > 30 * 60
      · have hopens : opensFrontage fetched c = none := by
          rw [opensFrontage, hfound]
          exact if_pos hfar
        rw [Columns.slide_some_far (htime ▸ hfar), frontageBranch, hopens]
        exact addFrontageInfo_eq hcolumn c
      · have hopens : opensFrontage fetched c = some info.id := by
          rw [opensFrontage, hfound]
          exact if_neg hfar
        rw [Columns.slide_some_near (htime ▸ Int.not_lt.mp hfar), frontageBranch, hopens]
        rfl

theorem hasPlanNo_frontageBranch (fetched : Option (List FrontageVisit)) (c : StreetCapture)
    (t : FrontageTable) : (frontageBranch fetched c t).hasPlanNo = t.hasPlanNo := by
  unfold frontageBranch mySqlCtrlAddFrontageInfo
  repeat' split
  all_goals rfl

/-- Without the column nothing is stored. -/
theorem frontageBranch_refused {t : FrontageTable} (hcolumn : t.hasPlanNo = false) (hrows : t.rows = [])
    (fetched : Option (List FrontageVisit)) (c : StreetCapture) :
    (frontageBranch fetched c t).rows = [] := by
  unfold frontageBranch
  split
  · rw [mySqlCtrlAddFrontageInfo, if_neg (by simp [hcolumn])]
    exact hrows
  · simp [mysqlCtrlUpdateFrontageInfo, updateWhere, hrows]

theorem addIsLandInfo_eq (c : DeviceOilLand) (t : List DeviceOilLand) :
    (mySqlCtrlAddIsLandInfo c t).2 = islandColumns.insert c t := by
  have hinsert : islandColumns.insert c t = (insertRow DeviceOilLand.snapToken c t).getD t := rfl
  rw [hinsert, mySqlCtrlAddIsLandInfo]
  cases insertRow DeviceOilLand.snapToken c t <;> rfl

theorem islandBranch_eq (fetched : List DeviceOilLand) (c : DeviceOilLand) (t : List DeviceOilLand) :
    islandBranch fetched c t =
      islandColumns.slide (8 * 60) (mySqlCtrlGetLastIsLandInfo c.plateNo fetched) c t := by
  rw [islandBranch]
  cases mySqlCtrlGetLastIsLandInfo c.plateNo fetched with
  | none => exact addIsLandInfo_eq c t
  | some info =>
      simp only [addIsLandInfo_eq]
      rfl

/-! ## What the queries find -/

/-- The row that stays after all have been fetched. -/
theorem finds_of_atLatest {ρ κ : Type} {C : Columns ρ κ String} {date : ρ → TimeYMD} {t fetched : List ρ}
    {p : String} (htime : ∀ r, C.time r = timeLocalYMD2Sec (date r)) (hvalid : ∀ r ∈ t, (date r).Valid)
    (hmem : ∀ r, r ∈ fetched ↔ AtLatest C.owner (fun r => (date r).datetime) p t r) :
    C.Finds (fun p => p.length ≠ 0) t p (if p.length = 0 then none else fetched.getLast?) := by
  split
  · next hempty => exact .nobody fun h => absurd hempty h
  · cases hlast : fetched.getLast? with
    | none =>
        rw [List.getLast?_eq_none_iff] at hlast
        refine .nobody fun _ s hs howner => ?_
        obtain ⟨r, hr⟩ := exists_atLatest (fun r => (date r).datetime) hs howner
        exact List.not_mem_nil (hlast ▸ (hmem r).mpr hr)
    | some r =>
        obtain ⟨hr, ⟨s, hs, howner, hshared⟩, hlatest⟩ := (hmem r).mp (List.mem_of_getLast? hlast)
        refine .row hr ⟨s, hs, howner, ?_⟩ fun u hu hu' => ?_
        · rw [htime, htime, TimeYMD.eq_of_datetime_eq (hvalid s hs) (hvalid r hr) hshared]
        · have hle := hlatest u hu hu'
          have hlt := TimeYMD.datetime_lt_iff (hvalid r hr) (hvalid u hu)
          rw [htime, htime]
          omega

theorem mem_latestFrontageRows {t : List FrontageVisit} (hvalid : ∀ r ∈ t, r.date.Valid) {p : String}
    {r : FrontageVisit} : r ∈ latestFrontageRows p t ↔
      AtLatest (fun r : FrontageVisit => r.planNo) (fun r => r.date.datetime) p t r := by
  unfold latestFrontageRows
  split
  · next hnone =>
      rw [maxDate, List.argmax_eq_none, List.map_eq_nil_iff, List.filter_eq_nil_iff] at hnone
      refine iff_of_false List.not_mem_nil fun h => ?_
      obtain ⟨s, hs, hp, -⟩ := h.shared
      exact hnone s hs (decide_eq_true hp)
  · next m hsome =>
      rw [maxDate] at hsome
      have hmax : ∀ u ∈ t, u.planNo = p → u.date.datetime ≤ m.datetime := by
        intro u hu hup
        have hu' : u ∈ t.filter fun r => r.planNo = p := List.mem_filter.mpr ⟨hu, decide_eq_true hup⟩
        exact List.le_of_mem_argmax (List.mem_map.mpr ⟨u, hu', rfl⟩) (Option.mem_def.mpr hsome)
      obtain ⟨s, hs, rfl⟩ := List.mem_map.mp (List.argmax_mem (Option.mem_def.mpr hsome))
      obtain ⟨hs, hp⟩ := List.mem_filter.mp hs
      rw [List.mem_filter, decide_eq_true_iff]
      constructor
      · rintro ⟨hr, htime⟩
        have hshared : s.date.datetime = r.date.datetime := by simp only [htime]
        refine ⟨hr, ⟨s, hs, of_decide_eq_true hp, hshared⟩, fun u hu hup => ?_⟩
        have hle := hmax u hu hup
        show u.date.datetime ≤ r.date.datetime
        omega
      · intro h
        obtain ⟨u, hu, hup, htime⟩ := h.shared
        have htime : u.date.datetime = r.date.datetime := htime
        have hle := hmax u hu hup
        have hge : s.date.datetime ≤ r.date.datetime := h.latest s hs (of_decide_eq_true hp)
        exact ⟨h.mem, TimeYMD.eq_of_datetime_eq (hvalid r h.mem) (hvalid s hs) (by omega)⟩

theorem frontage_finds {t fetched : List FrontageVisit} (hvalid : ∀ r ∈ t, r.date.Valid) {p : String}
    (hfetched : fetched.Perm (latestFrontageRows p t)) :
    frontageColumns.Finds (fun p => p.length ≠ 0) t p
      (mySqlCtrlGetLatestFrontageInfo p (some fetched)) :=
  finds_of_atLatest (fun _ => rfl) hvalid fun _ => hfetched.mem_iff.trans (mem_latestFrontageRows hvalid)

theorem island_finds {t fetched : List DeviceOilLand} (hvalid : ∀ r ∈ t, r.snaptime.Valid) {p : String}
    (hfetched : fetched.Perm (latestIslandRows p t)) :
    islandColumns.Finds (fun p => p.length ≠ 0) t p (mySqlCtrlGetLastIsLandInfo p fetched) :=
  finds_of_atLatest (fun _ => rfl) hvalid fun _ => hfetched.mem_iff.trans mem_latestRows

/-! ## Histories -/

/-- One row for each maximal run of a plate's captures, at the time of the last of them; and a capture
    leaves the rows of other plates, and the other table, alone. -/
structure ForecourtCorrect (s : Forecourt) (l : ForecourtCapture) (s' : Forecourt) : Prop where
  frontage : frontageColumns.PerRun (30 * 60) s'.frontage.rows (s'.streets.map StreetCapture.row)
  island : islandColumns.PerRun (8 * 60) s'.island s'.lands
  others : match l with
    | .frontage c _ =>
        frontageColumns.OthersKept c.plateNo s.frontage.rows s'.frontage.rows ∧ s'.island = s.island
    | .island c _ => s'.frontage = s.frontage ∧ islandColumns.OthersKept c.plateNo s.island s'.island

/-- When it does: the frontage table has the column of the plates; a capture that begins a run has a new
    token; for one that continues a run, the row that is found is of its plate or of its very second.
    (A capture without a plate finds nothing, and is only right when its token is taken and it comes at
    the second of the last one.) -/
def GoesRight (s : Forecourt) : ForecourtCapture → Prop
  | .frontage c fetched => s.frontage.hasPlanNo = true ∧ frontageColumns.Suits (30 * 60)
      s.frontage.rows (mySqlCtrlGetLatestFrontageInfo c.plateNo fetched) c.row
  | .island c fetched => islandColumns.Suits (8 * 60) s.island
      (mySqlCtrlGetLastIsLandInfo c.plateNo fetched) c

/-- Both tables as they should be. -/
structure ForecourtKept (s : Forecourt) : Prop where
  frontage : frontageColumns.Kept (30 * 60) s.frontage.rows (s.streets.map StreetCapture.row)
  refused : s.frontage.hasPlanNo = false → s.frontage.rows = []
  island : islandColumns.Kept (8 * 60) s.island s.lands

variable {s s' : Forecourt} {l : ForecourtCapture}

/-- What the frontage branch finds and does where the table has the column. -/
theorem frontage_run (hI : ForecourtKept s) {c : StreetCapture} {fetched : Option (List FrontageVisit)}
    (hcolumn : s.frontage.hasPlanNo = true) (hfetched : s.frontage.Fetched c.plateNo fetched) :
    frontageColumns.Finds (fun p => p.length ≠ 0) s.frontage.rows c.plateNo
        (mySqlCtrlGetLatestFrontageInfo c.plateNo fetched) ∧
      (frontageBranch fetched c s.frontage).rows = frontageColumns.slide (30 * 60)
        (mySqlCtrlGetLatestFrontageInfo c.plateNo fetched) c.row s.frontage.rows := by
  cases fetched with
  | none => exact absurd (hcolumn.symm.trans hfetched) (by decide)
  | some rows =>
      have hfinds := frontage_finds hI.frontage.ok hfetched.2
      refine ⟨hfinds, frontageBranch_eq hcolumn fun r hr => ?_⟩
      rw [Option.mem_def.mp hr] at hfinds
      cases hfinds with
      | row hmem _ _ => exact hI.frontage.ok r hmem

theorem forecourt_step_iff (hI : ForecourtKept s) (hplain : l.Plain) (hstep : forecourtStep s l s') :
    ForecourtCorrect s l s' ↔ GoesRight s l := by
  obtain ⟨htimely, hfetched, hrun⟩ := hstep
  obtain rfl := hrun hplain
  cases l with
  | frontage c fetched =>
      have hstreets : (ForecourtCapture.run s (.frontage c fetched)).streets.map StreetCapture.row =
          s.streets.map StreetCapture.row ++ [c.row] := List.map_append
      by_cases hcolumn : s.frontage.hasPlanNo = true
      · have hhist : ∀ d ∈ s.streets.map StreetCapture.row,
            frontageColumns.time d ≤ frontageColumns.time c.row :=
          List.forall_mem_map.mpr fun d hd => htimely.streets d hd
        have hvalid : frontageColumns.Ok c.row := htimely.valid
        obtain ⟨hfinds, hbranch⟩ := frontage_run hI hcolumn hfetched
        have hiff := Columns.slide_iff (by decide) hI.frontage hvalid hhist hfinds
        rw [← hbranch] at hiff
        rw [GoesRight, and_iff_right hcolumn, ← hiff]
        constructor
        · intro h
          exact ⟨hstreets ▸ h.frontage, h.others.1⟩
        · rintro ⟨hruns, hkept⟩
          exact ⟨hstreets ▸ hruns, hI.island.runs, hkept, rfl⟩
      · refine iff_of_false (fun h => ?_) fun h => hcolumn h.1
        have hnone := Bool.eq_false_iff.mpr hcolumn
        have hrows := frontageBranch_refused hnone (hI.refused hnone) fetched c
        have hruns := h.frontage
        rw [hstreets, ForecourtCapture.run, hrows] at hruns
        exact Columns.not_perRun_nil hruns
  | island c fetched =>
      have hvalid : islandColumns.Ok c := htimely.valid
      have hfinds : islandColumns.Finds (fun p => p.length ≠ 0) s.island (islandColumns.owner c)
          (mySqlCtrlGetLastIsLandInfo c.plateNo fetched) := island_finds hI.island.ok hfetched
      have hiff := Columns.slide_iff (by decide) hI.island hvalid htimely.lands hfinds
      rw [← islandBranch_eq] at hiff
      rw [GoesRight, ← hiff]
      exact ⟨fun h => ⟨h.island, h.others.2⟩, fun h => ⟨hI.frontage.runs, h.1, rfl, h.2⟩⟩

theorem forecourt_kept (hI : ForecourtKept s) (hplain : l.Plain) (hstep : forecourtStep s l s')
    (hcorrect : ForecourtCorrect s l s') : ForecourtKept s' := by
  have hright := (forecourt_step_iff hI hplain hstep).mp hcorrect
  obtain ⟨htimely, hfetched, hrun⟩ := hstep
  obtain rfl := hrun hplain
  cases l with
  | frontage c fetched =>
      have hhist : ∀ d ∈ s.streets.map StreetCapture.row,
          frontageColumns.time d ≤ frontageColumns.time c.row :=
        List.forall_mem_map.mpr fun d hd => htimely.streets d hd
      obtain ⟨-, hbranch⟩ := frontage_run hI hright.1 hfetched
      have hruns := hcorrect.frontage
      rw [ForecourtCapture.run, List.map_append, hbranch] at hruns
      refine ⟨?_, fun hnone => ?_, hI.island⟩
      · rw [ForecourtCapture.run, List.map_append, hbranch]
        have hvalid : frontageColumns.Ok c.row := htimely.valid
        exact hI.frontage.slide hvalid hhist hruns
      · rw [ForecourtCapture.run, hasPlanNo_frontageBranch] at hnone
        exact absurd (hright.1.symm.trans hnone) (by decide)
  | island c fetched =>
      have hruns := hcorrect.island
      rw [ForecourtCapture.run, islandBranch_eq] at hruns
      refine ⟨hI.frontage, hI.refused, ?_⟩
      rw [ForecourtCapture.run, islandBranch_eq]
      have hvalid : islandColumns.Ok c := htimely.valid
      exact hI.island.slide hvalid htimely.lands hruns

/-- **One row for each run.** In a history of captures in time order, without quotes and backslashes, both
    tables hold one row for each maximal run of each plate and no capture touches another plate's row,
    exactly if every capture goes right. -/
theorem forecourt_runs_iff {hasPlanNo : Bool} {tr : List ForecourtCapture} :
    Run (stepThat ForecourtCorrect (stepWhen (fun _ l => l.Plain) forecourtStep))
        (.empty hasPlanNo) tr s ↔
      Run (stepWhen GoesRight (stepWhen (fun _ l => l.Plain) forecourtStep)) (.empty hasPlanNo) tr s := by
  refine Run.each_iff ForecourtKept ?_ ?_ ?_
  · exact ⟨⟨fun _ => rfl, List.nodup_nil, by simp [Forecourt.empty], List.Pairwise.nil⟩, fun _ => rfl,
      ⟨fun _ => rfl, List.nodup_nil, by simp [Forecourt.empty], List.Pairwise.nil⟩⟩
  · intro s l s' hI hright hstep
    have hcorrect := (forecourt_step_iff hI hstep.1 hstep.2).mpr hright
    exact ⟨forecourt_kept hI hstep.1 hstep.2 hcorrect, hcorrect⟩
  · exact fun s l s' hI hright hstep hcorrect =>
      hright ((forecourt_step_iff hI hstep.1 hstep.2).mp hcorrect)

/-- At the pumps, two cars of one second; when the first is seen again, it is the row of the second that
    is moved. And in front of the station the first car is not stored in the table that the program makes. -/
theorem other_plate_moved :
    let ten : TimeYMD := ⟨2024, 5, 6, 10, 0, 0⟩
    let later : TimeYMD := ⟨2024, 5, 6, 10, 5, 0⟩
    let s₁ := ForecourtCapture.run (.empty false) (.island ⟨"1", "A", ten⟩ [])
    let s₂ := ForecourtCapture.run s₁ (.island ⟨"2", "B", ten⟩ [])
    let l : ForecourtCapture := .island ⟨"3", "A", later⟩ (latestIslandRows "A" s₂.island)
    let s₃ := l.run s₂
    let first : ForecourtCapture := .frontage ⟨"1", 0, 0, ten, "A"⟩ none
    l.Fetched s₂ ∧ (s₃.island.map fun r => (r.plateNo, r.snaptime)) = [("A", ten), ("B", later)] ∧
      runEnds (8 * 60) [timeLocalYMD2Sec ten, timeLocalYMD2Sec later] = [timeLocalYMD2Sec later] ∧
      ¬ islandColumns.OthersKept "A" s₂.island s₃.island ∧
      first.Fetched (.empty false) ∧
      ¬ ForecourtCorrect (.empty false) first (first.run (.empty false)) := by
  refine ⟨List.Perm.refl _, ?_, ?_, ?_, rfl, ?_⟩
  · decide +kernel
  · decide +kernel
  · intro h
    have hdates := congrArg (List.map fun r : DeviceOilLand => r.snaptime) h
    revert hdates
    decide +kernel
  · intro h
    have hruns := h.frontage
    rw [ForecourtCapture.run, frontageBranch_refused rfl rfl] at hruns
    exact absurd (hruns "A") (by decide +kernel)

end SmartPlat.VehicleDataAnalysis
