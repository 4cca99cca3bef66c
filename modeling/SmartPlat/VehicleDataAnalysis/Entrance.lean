import Mathlib.Data.List.MinMax
import SmartPlat.Common
import SmartPlat.Lib.SqlText
import SmartPlat.Lib.Table
import SmartPlat.MySql.Server

set_option autoImplicit false

/-! # Entrance captures and their counts (`vehicledataanalysis.c`, `mysqlctrl.c`)

The entrance branch of `MemoryDataToDatabasePro` and the three statements it runs on the entrance
table. Each capture reads the plate's latest visit and either opens a new one, moves the end of the
one it read, or leaves the table alone. The thread also pushes messages, counts visits and copies
them to the trajectory table; none of that is read back here.

Texts are as the collation of the columns takes them: two that it takes as equal are written alike. -/

namespace SmartPlat.VehicleDataAnalysis

open SmartPlat.Lib

/-- `DeviceEntrance_T`, and a row of the entrance table: `id` is `snapToken`, `startdate` and
    `enddate` are `vehicleStart` and `vehicleEnd`. -/
structure DeviceEntrance where
  snapToken : String
  plateNo : String
  vehicleTerr : ℤ
  plateColor : ℤ
  vehicleType : ℤ
  vehicleColor : ℤ
  vehicleStart : TimeYMD
  vehicleEnd : TimeYMD
  vehicleImagePath : String
  deriving DecidableEq, Repr

/-- A cleared `TimeYMD_T`. -/
def zeroTime : TimeYMD := ⟨0, 0, 0, 0, 0, 0⟩

theorem ne_zeroTime {t : TimeYMD} (h : t.Valid) : t ≠ zeroTime := by
  intro heq
  obtain ⟨⟨hmonth, -⟩, -⟩ := h
  rw [heq] at hmonth
  exact absurd hmonth (by decide)

/-- The entrance table, in the order of insertion; `id` is its primary key. -/
abbrev EntranceTable := List DeviceEntrance

/-! ## Statements -/

/-- `insert into entrance(…) value(…)`. -/
def mySqlCtrlAddEntranceInfo (info : DeviceEntrance) (t : EntranceTable) : ℤ × EntranceTable :=
  match insertRow DeviceEntrance.snapToken info t with
  | none => (keyFalse, t)
  | some t' => (keyTrue, t')

/-- `update entrance set enddate = … where id = token`. -/
def mysqlCtrlUpdateEntranceInfo (token : String) (info : DeviceEntrance) (t : EntranceTable) :
    ℤ × EntranceTable :=
  (keyTrue, updateWhere DeviceEntrance.snapToken token
    (fun r => { r with vehicleEnd := info.vehicleEnd }) t)

/-- `select max(startdate) from entrance where plateNo = plateNo`. -/
def maxStartdate (plateNo : String) (t : EntranceTable) : Option TimeYMD :=
  ((t.filter fun r => r.plateNo = plateNo).map DeviceEntrance.vehicleStart).argmax
    TimeYMD.datetime

/-- The rows `MySqlCtrlGetLatestEntranceInfo` selects: `select * from entrance where startdate =
    (select max(startdate) from entrance where plateNo = plateNo)`. Only the inner query mentions
    the plate. -/
def latestEntranceRows (plateNo : String) (t : EntranceTable) : EntranceTable :=
  match maxStartdate plateNo t with
  | none => []
  | some m => t.filter fun r => r.vehicleStart = m

/-- `MySqlCtrlGetLatestEntranceInfo`, given the rows in the order the server returns them: every row
    overwrites `info`, so the last one stays. -/
def mySqlCtrlGetLatestEntranceInfo (plateNo : String) (fetched : List DeviceEntrance) :
    Option DeviceEntrance :=
  if plateNo.length = 0 then none else fetched.getLast?

/-! ## The entrance branch -/

/-- What one capture does to the entrance table. -/
inductive EntranceAction where
  | newVisit
  | setEnd (snapToken : String)
  | leave
  deriving DecidableEq, Repr

/-- The decision, from the visit the query returned. -/
def entranceAction (latest : Option DeviceEntrance) (capture : DeviceEntrance) : EntranceAction :=
  match latest with
  | none => .newVisit
  | some info =>
      let time1 := timeLocalYMD2Sec capture.vehicleStart
      let time2 := timeLocalYMD2Sec info.vehicleStart
      if time1 - time2 > 60 * 60 then .newVisit
      else if info.vehicleStart = info.vehicleEnd then
        if time1 - time2 < 5 * 60 then .setEnd info.snapToken else .leave
      else
        let time1 := timeLocalYMD2Sec capture.vehicleEnd
        let time2 := timeLocalYMD2Sec info.vehicleEnd
        if time1 - time2 > 5 * 60 then .setEnd info.snapToken else .leave

/-- The entrance branch of `MemoryDataToDatabasePro`. The results of `insert` and `update` are
    ignored. -/
def memoryDataToDatabasePro (fetched : List DeviceEntrance) (capture : DeviceEntrance)
    (t : EntranceTable) : EntranceTable :=
  if capture.plateNo.length > 0 then
    match entranceAction (mySqlCtrlGetLatestEntranceInfo capture.plateNo fetched) capture with
    | .newVisit => (mySqlCtrlAddEntranceInfo capture t).2
    | .setEnd token => (mysqlCtrlUpdateEntranceInfo token capture t).2
    | .leave => t
  else t

/-! ## Captures and steps -/

/-- A capture as the camera callbacks build it: a valid time, as start and as end, and a plate that is
    read as it is from the literals it is pasted into. -/
structure EntranceCapture where
  info : DeviceEntrance
  valid : info.vehicleStart.Valid
  instant : info.vehicleEnd = info.vehicleStart
  plain : PlainText info.plateNo

namespace EntranceCapture

abbrev plateNo (c : EntranceCapture) : String := c.info.plateNo

/-- The second of the capture. -/
def time (c : EntranceCapture) : ℤ := timeLocalYMD2Sec c.info.vehicleStart

end EntranceCapture

/-- A capture on one morning, for concrete runs. -/
def sampleCapture (token plateNo : String) (min : Fin 60) (plain : PlainText plateNo := by decide) :
    EntranceCapture where
  info := ⟨token, plateNo, 0, 0, 0, 0, ⟨2024, 5, 1, 10, min, 0⟩, ⟨2024, 5, 1, 10, min, 0⟩, ""⟩
  valid := ⟨(by decide : ValidDate 2024 5 1), (by decide : 10 < 24), min.2, (by decide : 0 < 60)⟩
  instant := rfl
  plain := plain

/-- One capture is processed; the server returns the selected rows in any order. -/
def EntranceStep (t : EntranceTable) (c : EntranceCapture) (t' : EntranceTable) : Prop :=
  ∃ fetched : List DeviceEntrance, fetched.Perm (latestEntranceRows c.plateNo t) ∧
    t' = memoryDataToDatabasePro fetched c.info t

/-! ## Counts for each hour and each day

`GetOutboundVehiclesAnalysis`, `GetRefuelingEfficiencyAnalysis` and `GetAlarmPeriodAnalysis` walk from
window to window and run a counting statement on each. -/

open SmartPlat.MySql

/-! ### Tables -/

/-- A row of the frontage table. -/
structure FrontageRow where
  id : String
  platecolor : ℤ
  vehicletype : ℤ
  date : TimeYMD
  deriving DecidableEq, Repr

/-- A row of the alarm table. -/
structure AlarmRow where
  id : String
  alarmtype : ℤ
  alarmdate : TimeYMD
  alarmlocation : String
  deriving DecidableEq, Repr

/-! ### Counting statements -/

/-- `date < 'end' and date > 'start'`. Of a statement that is refused the callers read a count of zero and
    no rows. -/
def inWindow [Server] (startDate endDate date : TimeYMD) : Bool :=
  (Evaluates startDate ∧ Evaluates endDate) ∧ dateBefore date endDate ∧ dateAfter date startDate

theorem inWindow_of_valid [Server] {startDate endDate date : TimeYMD} (hstart : startDate.Valid)
    (hend : endDate.Valid) : inWindow startDate endDate date = true ↔
      date.datetime < endDate.datetime ∧ startDate.datetime < date.datetime := by
  rw [inWindow, dateBefore, dateAfter, if_pos (isDatetime_of_valid hstart),
    if_pos (isDatetime_of_valid hend), decide_eq_true_iff, decide_eq_true_iff, decide_eq_true_iff]
  exact and_iff_right ⟨.inl hstart, .inl hend⟩

/-- `MySqlCtrlGetFrontageListSumByTime` -/
def mySqlCtrlGetFrontageListSumByTime [Server] (t : List FrontageRow) (startTime endTime : TimeYMD) : ℕ :=
  t.countP fun r => inWindow startTime endTime r.date

/-- `MySqlCtrlGetEntranceListSumByTime` -/
def mySqlCtrlGetEntranceListSumByTime [Server] (t : EntranceTable) (startTime endTime : TimeYMD) : ℕ :=
  t.countP fun r => inWindow startTime endTime r.vehicleStart

/-- `UNIX_TIMESTAMP(enddate) - UNIX_TIMESTAMP(startdate)` -/
def DeviceEntrance.staytime [Server] (r : DeviceEntrance) : ℤ :=
  Server.unixTimestamp r.vehicleEnd - Server.unixTimestamp r.vehicleStart

structure Refueling where
  total : ℕ
  average : ℤ
  deriving DecidableEq, Repr

/-- `MySqlCtrlGetEntranceRefuelingEfficiency`: `avg` over no rows is `NULL`, read as `0`. -/
def mySqlCtrlGetEntranceRefuelingEfficiency [Server] (t : EntranceTable) (startTime endTime : TimeYMD) :
    Refueling :=
  let rows := t.filter fun r => inWindow startTime endTime r.vehicleStart
  { total := t.countP fun r => inWindow startTime endTime r.vehicleStart
    average := (rows.map DeviceEntrance.staytime).sum / rows.length }

inductive AlarmLevelSearchType where
  | highTemp
  | smoking
  deriving DecidableEq, Repr

/-- The `alarmtype` of a search. -/
def AlarmLevelSearchType.alarmtype : AlarmLevelSearchType → ℤ
  | highTemp => 2
  | smoking => 1

/-- `MySqlCtrlGetAlarmListSumBySearchType` -/
def mySqlCtrlGetAlarmListSumBySearchType [Server] (t : List AlarmRow) (startTime endTime : TimeYMD)
    (type : AlarmLevelSearchType) : ℕ :=
  t.countP fun r => inWindow startTime endTime r.alarmdate && r.alarmtype = type.alarmtype

/-! ### The walk -/

/-- `GetDaysByTime`. The cases of the short months have no `break`: they go on into `default`. -/
def getDaysByTime (year month : ℕ) : ℕ :=
  if month ∈ [1, 3, 5, 7, 8, 10, 12] then 31
  else if year % 4 = 0 ∧ year % 100 ≠ 100 ∨ year % 400 = 0 then 29
  else 28

/-- The end of a round of the loop: on to the next day. -/
def nextDay (startTime : TimeYMD) : TimeYMD :=
  let days := getDaysByTime startTime.year startTime.month
  if startTime.day ≠ days then { startTime with day := startTime.day + 1 }
  else if startTime.month ≠ 12 then { startTime with month := startTime.month + 1, day := 1 }
  else { startTime with year := startTime.year + 1, month := 1, day := 1 }

section

variable {β : Type} (query : TimeYMD → TimeYMD → β)

/-- The loop over days, with the statements of its rounds as `query`. -/
def perDay : ℕ → TimeYMD → List β
  | 0, _ => []
  | count + 1, startTime =>
      let time := { startTime with hour := 23, min := 59, sec := 59 }
      let startTime := { startTime with hour := 0, min := 0, sec := 0 }
      query startTime time :: perDay count (nextDay startTime)

/-- The loop over hours, when both times are on one day. -/
def perHour : ℕ → TimeYMD → TimeYMD → List β
  | 0, _, _ => []
  | count + 1, startTime, endTime =>
      let endTime :=
        if startTime.hour = 23 then { endTime with hour := 23, min := 59, sec := 59 }
        else { endTime with hour := endTime.hour + 1 }
      query startTime endTime ::
        perHour count { startTime with hour := startTime.hour + 1 } endTime

/-- The two loops. -/
def buckets (startTime endTime : TimeYMD) (count : ℤ) : List β :=
  if startTime.year = endTime.year ∧ startTime.month = endTime.month ∧ startTime.day = endTime.day then
    perHour query count.toNat startTime endTime
  else perDay query count.toNat startTime

end

/-! ### The three analyses -/

structure ProgressRate where
  PassingCount : ℕ
  IncomingCount : ℕ
  deriving DecidableEq, Repr

/-- `GetOutboundVehiclesAnalysis`: `Progress` and `Progress1`. -/
def getOutboundVehiclesAnalysis [Server] (frontage : List FrontageRow) (entrance : EntranceTable)
    (startTime endTime : TimeYMD) (count : ℤ) : Option (List ProgressRate × ProgressRate) :=
  let query startTime endTime : ProgressRate :=
    { PassingCount := mySqlCtrlGetFrontageListSumByTime frontage startTime endTime
      IncomingCount := mySqlCtrlGetEntranceListSumByTime entrance startTime endTime }
  if count < 0 then none
  else
    some (buckets query startTime endTime count,
      query startTime { endTime with hour := 23, min := 59, sec := 59 })

/-- `GetRefuelingEfficiencyAnalysis` -/
def getRefuelingEfficiencyAnalysis [Server] (entrance : EntranceTable) (startTime endTime : TimeYMD)
    (count : ℤ) : Option (List Refueling) :=
  if count ≤ 0 then none
  else
    some (buckets (mySqlCtrlGetEntranceRefuelingEfficiency entrance) startTime endTime count)

structure DeviceAlarmCount where
  smokecount : ℕ
  hightemcount : ℕ
  deriving DecidableEq, Repr

/-- `GetAlarmPeriodAnalysis` -/
def getAlarmPeriodAnalysis [Server] (alarms : List AlarmRow) (startTime endTime : TimeYMD) (count : ℤ) :
    List DeviceAlarmCount :=
  let query startTime endTime : DeviceAlarmCount :=
    { smokecount := mySqlCtrlGetAlarmListSumBySearchType alarms startTime endTime .smoking
      hightemcount := mySqlCtrlGetAlarmListSumBySearchType alarms startTime endTime .highTemp }
  buckets query startTime endTime count

end SmartPlat.VehicleDataAnalysis
