import SmartPlat.VehicleDataAnalysis.Entrance
import SmartPlat.Lib.Blocks

set_option autoImplicit false

/-! # Trajectories (`vehicledataanalysis.c`, `mysqlctrl.c`)

The trajectory table is filled beside the entrance table and the wash table, by the same two branches
of `MemoryDataToDatabasePro`. A new row is built in a record on the stack with one `memcpy` for each
member. -/

namespace SmartPlat.VehicleDataAnalysis

open SmartPlat.Lib

/-- `DeviceWash_T`, and a row of the wash table. -/
structure DeviceWash where
  snapToken : String
  plateNo : String
  vehicleStart : TimeYMD
  vehicleEnd : TimeYMD
  deriving DecidableEq, Repr

/-- `DeviceTrajectory_T`, and a row of the trajectory table. -/
structure DeviceTrajectory where
  snapToken : String
  plateNo : String
  arrivalstartdate : TimeYMD
  arrivalenddate : TimeYMD
  washstartdate : TimeYMD
  washenddate : TimeYMD
  deriving DecidableEq, Repr

/-- The three tables, and all that was written so far into trajectory records. -/
structure StationTables where
  entrance : EntranceTable
  wash : List DeviceWash
  trajectory : List DeviceTrajectory
  writes : List (Write ℕ)
  deriving DecidableEq, Repr

def StationTables.empty : StationTables := ⟨[], [], [], []⟩

/-! ## The record

The dates of a record are four `TimeYMD_T` of six `int`s. Offsets and lengths are in `int`s from
`arrivalstartdate` on; the two names before it are copied with their size. -/

/-- `arrivalstartdate` to `washenddate`. -/
def datesSize : ℕ := 24

def offArrivalstartdate : ℕ := 0

def offArrivalenddate : ℕ := 6

def offWashstartdate : ℕ := 12

def offWashenddate : ℕ := 18

def timeWords (t : TimeYMD) : List ℕ := [t.year, t.month, t.day, t.hour, t.min, t.sec]

def timeAt (mem : ℕ → ℕ) (k : ℕ) : TimeYMD :=
  ⟨mem k, mem (k + 1), mem (k + 2), mem (k + 3), mem (k + 4), mem (k + 5)⟩

/-- The 128 bytes from `vehicleStart` of a capture on: its start, its end, and what lies behind. -/
def fromVehicleStart (vehicleStart vehicleEnd : TimeYMD) (behind : ℕ → ℕ) : List ℕ :=
  timeWords vehicleStart ++ timeWords vehicleEnd ++ (List.range 20).map behind

/-- A cleared record after its copies. -/
def recordOf (snapToken plateNo : String) (writes : List (Write ℕ)) : DeviceTrajectory :=
  let dates := applyWrites (fun _ => 0) writes
  { snapToken, plateNo
    arrivalstartdate := timeAt dates offArrivalstartdate
    arrivalenddate := timeAt dates offArrivalenddate
    washstartdate := timeAt dates offWashstartdate
    washenddate := timeAt dates offWashenddate }

/-- The copies of the entrance branch: 128 bytes from `vehicleStart` on into each date. -/
def entranceWrites (capture : DeviceEntrance) (behind : ℕ → ℕ) : List (Write ℕ) :=
  [offArrivalstartdate, offArrivalenddate, offWashstartdate, offWashenddate].map fun off =>
    ⟨off, fromVehicleStart capture.vehicleStart capture.vehicleEnd behind⟩

/-- The copy of the wash branch: 128 bytes into `washstartdate`. -/
def washWrites (capture : DeviceWash) (behind : ℕ → ℕ) : List (Write ℕ) :=
  [⟨offWashstartdate, fromVehicleStart capture.vehicleStart capture.vehicleEnd behind⟩]

/-! ## Statements -/

/-- `insert into washcardata(…) value(…)`. -/
def mySqlCtrlAddWashCarInfo (info : DeviceWash) (t : List DeviceWash) : ℤ × List DeviceWash :=
  match insertRow DeviceWash.snapToken info t with
  | none => (keyFalse, t)
  | some t' => (keyTrue, t')

/-- `update washcardata set enddate = … where id = token`. -/
def mySqlCtrlSetWashCarInfo (token : String) (info : DeviceWash) (t : List DeviceWash) :
    ℤ × List DeviceWash :=
  (keyTrue, updateWhere DeviceWash.snapToken token
    (fun r => { r with vehicleEnd := info.vehicleEnd }) t)

/-- The rows `MySqlCtrlGetLastWashCarInfo` selects. As for the entrance table, only the inner query
    mentions the plate. -/
def lastWashRows (plateNo : String) (t : List DeviceWash) : List DeviceWash :=
  match ((t.filter fun r => r.plateNo = plateNo).map DeviceWash.vehicleStart).argmax
      TimeYMD.datetime with
  | none => []
  | some m => t.filter fun r => r.vehicleStart = m

/-- `MySqlCtrlGetLastWashCarInfo`: the last row that is fetched stays. -/
def mySqlCtrlGetLastWashCarInfo (plateNo : String) (fetched : List DeviceWash) :
    Option DeviceWash :=
  if plateNo.length = 0 then none else fetched.getLast?

/-- `insert into cartrajectory(…) value(…)`. A server that takes no zero dates refuses a row with
    one. -/
def mySqlCtrlAddTrajectoryInfo (zeroDates : Bool) (info : DeviceTrajectory)
    (t : List DeviceTrajectory) : ℤ × List DeviceTrajectory :=
  if !zeroDates && zeroTime ∈ [info.arrivalstartdate, info.arrivalenddate, info.washstartdate,
      info.washenddate] then
    (keyFalse, t)
  else
    match insertRow DeviceTrajectory.snapToken info t with
    | none => (keyFalse, t)
    | some t' => (keyTrue, t')

/-- `select * from cartrajectory where id = token`, into a cleared record; the token is not read
    back. -/
def mySqlCtrlGetTrajectoryInfo (token : String) (t : List DeviceTrajectory) : DeviceTrajectory :=
  match t.find? fun r => r.snapToken = token with
  | none => ⟨"", "", zeroTime, zeroTime, zeroTime, zeroTime⟩
  | some r => { r with snapToken := "" }

/-- `update cartrajectory set …, all four dates, … where id = token`. -/
def mysqlCtrlUpdateTrajectoryInfo (token : String) (info : DeviceTrajectory)
    (t : List DeviceTrajectory) : ℤ × List DeviceTrajectory :=
  (keyTrue, updateWhere DeviceTrajectory.snapToken token
    (fun r => { r with
      arrivalstartdate := info.arrivalstartdate
      arrivalenddate := info.arrivalenddate
      washstartdate := info.washstartdate
      washenddate := info.washenddate }) t)

/-! ## The two branches -/

/-- The entrance branch of `MemoryDataToDatabasePro`, with what it does to the trajectory table. The
    results of the statements are ignored. -/
def entrancePro (zeroDates : Bool) (fetched : List DeviceEntrance) (behind : ℕ → ℕ)
    (capture : DeviceEntrance) (s : StationTables) : StationTables :=
  if capture.plateNo.length > 0 then
    match entranceAction (mySqlCtrlGetLatestEntranceInfo capture.plateNo fetched) capture with
    | .newVisit =>
        let writes := entranceWrites capture behind
        let traj := recordOf capture.snapToken capture.plateNo writes
        { s with
          entrance := (mySqlCtrlAddEntranceInfo capture s.entrance).2
          trajectory := (mySqlCtrlAddTrajectoryInfo zeroDates traj s.trajectory).2
          writes := s.writes ++ writes }
    | .setEnd token =>
        let traj := mySqlCtrlGetTrajectoryInfo token s.trajectory
        let traj := { traj with arrivalenddate := capture.vehicleEnd }
        { s with
          entrance := (mysqlCtrlUpdateEntranceInfo token capture s.entrance).2
          trajectory := (mysqlCtrlUpdateTrajectoryInfo token traj s.trajectory).2
          writes := s.writes ++ [⟨offArrivalenddate, timeWords capture.vehicleEnd⟩] }
    | .leave => s
  else s

/-- A wash starts a session of its own; it is never looked up in the entrance table. -/
def washAdd (zeroDates : Bool) (behind : ℕ → ℕ) (capture : DeviceWash) (s : StationTables) :
    StationTables :=
  let writes := washWrites capture behind
  let traj := recordOf capture.snapToken capture.plateNo writes
  { s with
    wash := (mySqlCtrlAddWashCarInfo capture s.wash).2
    trajectory := (mySqlCtrlAddTrajectoryInfo zeroDates traj s.trajectory).2
    writes := s.writes ++ writes }

/-- The wash branch of `MemoryDataToDatabasePro`. -/
def washPro (zeroDates : Bool) (fetched : List DeviceWash) (behind : ℕ → ℕ) (capture : DeviceWash)
    (s : StationTables) : StationTables :=
  if capture.plateNo.length > 0 then
    match mySqlCtrlGetLastWashCarInfo capture.plateNo fetched with
    | some info =>
        let time1 := timeLocalYMD2Sec capture.vehicleStart
        let time2 := timeLocalYMD2Sec info.vehicleStart
        if time1 - time2 > 60 * 60 then washAdd zeroDates behind capture s
        else
          let traj := mySqlCtrlGetTrajectoryInfo info.snapToken s.trajectory
          let traj := { traj with washenddate := capture.vehicleEnd }
          { s with
            wash := (mySqlCtrlSetWashCarInfo info.snapToken capture s.wash).2
            trajectory := (mysqlCtrlUpdateTrajectoryInfo info.snapToken traj s.trajectory).2
            writes := s.writes ++ [⟨offWashenddate, timeWords capture.vehicleEnd⟩] }
    | none => washAdd zeroDates behind capture s
  else s

/-! ## Captures and steps -/

/-- A capture of the wash camera: a valid time, as start and as end. -/
structure WashCapture where
  info : DeviceWash
  valid : info.vehicleStart.Valid
  instant : info.vehicleEnd = info.vehicleStart

/-- A capture of one of the two cameras. -/
inductive StationCapture where
  | entrance (c : EntranceCapture)
  | wash (c : WashCapture)

def StationCapture.plateNo : StationCapture → String
  | .entrance c => c.plateNo
  | .wash c => c.info.plateNo

/-- One capture is processed; the server returns the selected rows in any order, and any bytes follow
    the capture in memory. -/
def StationStep (zeroDates : Bool) (s : StationTables) (c : StationCapture) (s' : StationTables) :
    Prop :=
  match c with
  | .entrance c => ∃ fetched behind, fetched.Perm (latestEntranceRows c.plateNo s.entrance) ∧
      s' = entrancePro zeroDates fetched behind c.info s
  | .wash c => ∃ fetched behind, fetched.Perm (lastWashRows c.info.plateNo s.wash) ∧
      s' = washPro zeroDates fetched behind c.info s

/-- A wash on the morning of `sampleCapture`. -/
def sampleWash (token plateNo : String) (min : Fin 60) : WashCapture where
  info := ⟨token, plateNo, ⟨2024, 5, 1, 10, min, 0⟩, ⟨2024, 5, 1, 10, min, 0⟩⟩
  valid := ⟨(by decide : ValidDate 2024 5 1), (by decide : 10 < 24), min.2, (by decide : 0 < 60)⟩
  instant := rfl

end SmartPlat.VehicleDataAnalysis
