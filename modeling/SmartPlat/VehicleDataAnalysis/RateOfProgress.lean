import Mathlib.Logic.Function.Basic
import SmartPlat.VehicleDataAnalysis.Entrance
import SmartPlat.VehicleDataAnalysis.Search

set_option autoImplicit false

/-! # Pushed counts and daily totals (`vehicledataanalysis.c`)

When an entrance capture opens a visit, `MemoryDataToDatabasePro` looks up how often the car was there in
the month and pushes the number with the visit (`PushTurnInRateMqttMsg`). Both branches that open a
visit do the same. The number comes from the search of the station list, with the plate as text. -/

namespace SmartPlat.VehicleDataAnalysis

open SmartPlat.Lib SmartPlat.MySql

/-- `serchInfo.fuzzyStr` -/
def EntranceCapture.fuzzyStr (c : EntranceCapture) : FuzzyStr := ⟨c.plateNo, c.plain⟩

/-- `time1` of the month of a visit. -/
def monthTime1 (vehicleStart : TimeYMD) : TimeYMD :=
  { vehicleStart with day := 1, hour := 0, min := 0, sec := 0 }

/-- `time2` -/
def monthTime2 (vehicleStart : TimeYMD) : TimeYMD :=
  { vehicleStart with
    day := getDaysByTime vehicleStart.year vehicleStart.month, hour := 23, min := 59, sec := 59 }

/-- `serchInfo`: `VehicleSearch_TYPE_Fuzzy` with the plate. -/
def plateSerch (fuzzyStr : FuzzyStr) : VehicleSearchInfo where
  vehicleType := -1
  type := ⟨false, false, true, false, false⟩
  vehicleTerr := 0
  fuzzyStr := fuzzyStr

/-- `num`, when the capture opens a visit; the row is inserted before the search. -/
def turnInRate [Server] (fetched : List DeviceEntrance) (c : EntranceCapture) (t : EntranceTable) :
    Option ℕ :=
  if c.plateNo.length > 0 then
    match entranceAction (mySqlCtrlGetLatestEntranceInfo c.plateNo fetched) c.info with
    | .newVisit =>
        some (mySqlCtrlGetEntranceListSumBySerchType2 (mySqlCtrlAddEntranceInfo c.info t).2
          (monthTime1 c.info.vehicleStart) (monthTime2 c.info.vehicleStart) (plateSerch c.fuzzyStr))
    | .setEnd _ | .leave => none
  else none

/-- One capture is processed, with what is pushed. -/
def PushStep [Server] (t : EntranceTable) (x : EntranceCapture × Option ℕ) (t' : EntranceTable) : Prop :=
  ∃ fetched : List DeviceEntrance, fetched.Perm (latestEntranceRows x.1.plateNo t) ∧
    t' = memoryDataToDatabasePro fetched x.1.info t ∧ x.2 = turnInRate fetched x.1 t

/-- The visits of a plate in a month. -/
def visitsInMonth (t : EntranceTable) (plateNo : String) (m : YearMonth) : ℕ :=
  t.countP fun r => r.plateNo = plateNo && monthOf r.vehicleStart = m

/-! ## The daily totals

`VehicleCount` holds how many visits the day has had in front of the station and at its entrance. The
database thread adds to the two totals and pushes them when it records a visit, `ThreadRateOfProgress`
sets them to zero when it sees another day of the month, and `VehicleParamInit` reads them from the
tables when the process starts. Nothing protects them: each access is one step, and so is each
statement. The clock is a thread like the others. -/

/-- The day of a time, as a number that grows with the date. -/
def calendarDay (t : TimeYMD) : ℕ := (t.year * 13 + t.month) * 32 + t.day

/-- What `GetLocalTime` returns. -/
structure Clock where
  curTime : TimeYMD
  valid : curTime.Valid
  deriving DecidableEq

/-- `start`: the beginning of the day. -/
def startOfDay (curTime : TimeYMD) : TimeYMD := { curTime with hour := 0, min := 0, sec := 0 }

/-! ## The frontage table -/

/-- A row of the frontage table. `date` moves when the car is seen again; `captured` records the capture
    that the row was inserted for. -/
structure FrontageVisit extends FrontageRow where
  planNo : String
  captured : TimeYMD
  deriving DecidableEq, Repr

/-- The frontage table. The one that `MysqlCreateFrontageDataTable` makes has no column `planNo`, which
    the insert and the select of a plate name: both are refused then. -/
structure FrontageTable where
  hasPlanNo : Bool
  rows : List FrontageVisit

/-- The table that the program makes. -/
def mysqlCreateFrontageDataTable : FrontageTable := ⟨false, []⟩

/-- A capture in front of the station: `DeviceStreet_T`. -/
structure StreetCapture where
  snapToken : String
  plateColor : ℤ
  vehicleType : ℤ
  time : TimeYMD
  plateNo : String
  deriving DecidableEq, Repr

/-- The row that `MySqlCtrlAddFrontageInfo` inserts. -/
def StreetCapture.row (c : StreetCapture) : FrontageVisit :=
  ⟨⟨c.snapToken, c.plateColor, c.vehicleType, c.time⟩, c.plateNo, c.time⟩

/-- `MySqlCtrlAddFrontageInfo`: the result and the table. -/
def mySqlCtrlAddFrontageInfo (info : StreetCapture) (t : FrontageTable) : ℤ × FrontageTable :=
  if t.hasPlanNo then
    match insertRow (fun r : FrontageVisit => r.id) info.row t.rows with
    | none => (keyFalse, t)
    | some rows => (keyTrue, { t with rows := rows })
  else (keyFalse, t)

/-- `SELECT max(date) from frontage where planNo = plateNo` -/
def maxDate (plateNo : String) (t : List FrontageVisit) : Option TimeYMD :=
  ((t.filter fun r => r.planNo = plateNo).map fun r => r.date).argmax TimeYMD.datetime

/-- The rows `MySqlCtrlGetLatestFrontageInfo` selects: as at the entrance, the outer query asks for the
    date only. -/
def latestFrontageRows (plateNo : String) (t : List FrontageVisit) : List FrontageVisit :=
  match maxDate plateNo t with
  | none => []
  | some m => t.filter fun r => r.date = m

/-- What the server answers to the select: the rows in any order, or nothing when it refuses it. -/
def FrontageTable.Fetched (t : FrontageTable) (plateNo : String) : Option (List FrontageVisit) → Prop
  | none => t.hasPlanNo = false
  | some fetched => t.hasPlanNo = true ∧ fetched.Perm (latestFrontageRows plateNo t.rows)

/-- `DeviceStreet_T info = {0}` -/
def zeroStreet : FrontageVisit := ⟨⟨"", 0, 0, zeroTime⟩, "", zeroTime⟩

/-- `MySqlCtrlGetLatestFrontageInfo`, given the answer of the server. A select that is refused counts as
    found, and leaves `info` as it was. -/
def mySqlCtrlGetLatestFrontageInfo (plateNo : String) (fetched : Option (List FrontageVisit)) :
    Option FrontageVisit :=
  if plateNo.length = 0 then none
  else match fetched with
    | none => some zeroStreet
    | some rows => rows.getLast?

/-- `MysqlCtrlUpdateFrontageInfo` -/
def mysqlCtrlUpdateFrontageInfo (token : String) (c : StreetCapture) (t : FrontageTable) : FrontageTable :=
  let moved (r : FrontageVisit) : FrontageVisit :=
    { r with toFrontageRow := { r.toFrontageRow with date := c.time } }
  { t with rows := updateWhere (fun r => r.id) token moved t.rows }

/-- `TimeLocalYMD2Sec` of a time that was looked up. `mktime` takes the cleared one for 30 November of the
    year before 0. -/
def foundSec (time : TimeYMD) : ℤ :=
  if time = zeroTime then timeLocalYMD2Sec ⟨0, 1, 1, 0, 0, 0⟩ - 32 * 86400 else timeLocalYMD2Sec time

/-! ## The threads -/

/-- The two totals of `VehicleCount_T`. -/
inductive Total where
  | FrontageTotal
  | EntranceTotal
  deriving DecidableEq, Repr

/-- A visit that is being recorded. -/
inductive Visit where
  | frontage (c : StreetCapture)
  | entrance (c : EntranceCapture)

def Visit.total : Visit → Total
  | .frontage _ => .FrontageTotal
  | .entrance _ => .EntranceTotal

def Visit.captured : Visit → TimeYMD
  | .frontage c => c.time
  | .entrance c => c.info.vehicleStart

/-- Where the database thread is, with what it has read. -/
inductive DatabaseStep where
  | off
  | idle
  /-- `fd->…Total++` reads and writes. -/
  | load (v : Visit)
  | store (v : Visit) (read : ℕ)
  /-- `PushRateProgressMqttMsg` reads both. -/
  | push (v : Visit) (read : Total → Option ℕ)
  /-- `pAddFrontageInfo` or `pAddEntranceInfo` -/
  | add (v : Visit)

/-- Where `ThreadRateOfProgress` is. -/
inductive RateStep where
  | off
  | start
  | poll
  | resetEntrance (tv : Clock)
  | resetFrontage (tv : Clock)

/-- `countDay` records the day that the totals are of. -/
structure DayState where
  now : Clock
  frontage : FrontageTable
  entrance : EntranceTable
  VehicleCount : Total → ℕ
  db : DatabaseStep
  rate : RateStep
  day : ℕ
  countDay : ℕ

/-- Before the process starts. -/
def dayInit (now : Clock) (frontage : FrontageTable) (entrance : EntranceTable) : DayState where
  now := now
  frontage := frontage
  entrance := entrance
  VehicleCount := fun _ => 0
  db := .off
  rate := .off
  day := 0
  countDay := 0

inductive DayEvent where
  | tick (t : Clock)
  | restart
  | rateStart
  | poll
  | resetEntrance
  | resetFrontage
  | dbStart
  /-- A capture is looked up, and opens a visit. -/
  | opens (v : Visit)
  /-- A capture is looked up, and does not. -/
  | repeats
  | load
  | store
  | read (total : Total)
  | push (frontageTotal entranceTotal : ℕ)
  | add

/-- What the frontage table says of a capture: nothing when a visit is recorded for it, or else the row
    that is moved. -/
def opensFrontage (fetched : Option (List FrontageVisit)) (c : StreetCapture) : Option String :=
  match mySqlCtrlGetLatestFrontageInfo c.plateNo fetched with
  | none => none
  | some info =>
      if timeLocalYMD2Sec c.time - foundSec info.date > 30 * 60 then none else some info.id

/-- The capture opens a visit. -/
def Opens (s : DayState) : Visit → Prop
  | .frontage c => ∃ fetched, s.frontage.Fetched c.plateNo fetched ∧ opensFrontage fetched c = none
  | .entrance c => 0 < c.plateNo.length ∧ ∃ fetched : List DeviceEntrance,
      fetched.Perm (latestEntranceRows c.plateNo s.entrance) ∧
        entranceAction (mySqlCtrlGetLatestEntranceInfo c.plateNo fetched) c.info = .newVisit

/-- The tables after a capture that opens no visit. -/
inductive Repeats (s : DayState) : FrontageTable → EntranceTable → Prop
  | frontage {c : StreetCapture} {fetched : Option (List FrontageVisit)} {token : String} :
      s.frontage.Fetched c.plateNo fetched →
        opensFrontage fetched c = some token →
        Repeats s (mysqlCtrlUpdateFrontageInfo token c s.frontage) s.entrance
  | setEnd {c : EntranceCapture} {fetched : List DeviceEntrance} {token : String} :
      fetched.Perm (latestEntranceRows c.plateNo s.entrance) →
        entranceAction (mySqlCtrlGetLatestEntranceInfo c.plateNo fetched) c.info = .setEnd token →
        Repeats s s.frontage (mysqlCtrlUpdateEntranceInfo token c.info s.entrance).2
  /-- Also a capture without a plate, or of another role. -/
  | leave : Repeats s s.frontage s.entrance

/-- The two counting statements of `VehicleParamInit`. -/
def countFrom [Server] (s : DayState) : Total → ℕ
  | .FrontageTotal => mySqlCtrlGetFrontageListSumByTime (s.frontage.rows.map fun r => r.toFrontageRow)
      (startOfDay s.now.curTime) s.now.curTime
  | .EntranceTotal =>
      mySqlCtrlGetEntranceListSumByTime s.entrance (startOfDay s.now.curTime) s.now.curTime

/-- At the entrance the row is inserted first, in front of the station the totals are pushed first. -/
def afterStore (v : Visit) : DatabaseStep :=
  match v with
  | .frontage _ => .push v fun _ => none
  | .entrance _ => .add v

def afterPush (v : Visit) : DatabaseStep :=
  match v with
  | .frontage _ => .add v
  | .entrance _ => .idle

def afterAdd (v : Visit) : DatabaseStep :=
  match v with
  | .frontage _ => .idle
  | .entrance _ => .push v fun _ => none

/-- `insert`, whose result is ignored. -/
def DayState.insert (s : DayState) (v : Visit) : DayState :=
  match v with
  | .frontage c => { s with frontage := (mySqlCtrlAddFrontageInfo c s.frontage).2 }
  | .entrance c => { s with entrance := (mySqlCtrlAddEntranceInfo c.info s.entrance).2 }

inductive DayStep [Server] : DayState → DayEvent → DayState → Prop
  | tick {s : DayState} (t : Clock) : DayStep s (.tick t) { s with now := t }
  /-- The process ends and `VehicleParamInit` runs; the threads have not started. -/
  | restart {s : DayState} :
      DayStep s .restart { s with
        VehicleCount := countFrom s
        db := .off
        rate := .start
        countDay := calendarDay s.now.curTime }
  | rateStart {s : DayState} :
      s.rate = .start → DayStep s .rateStart { s with rate := .poll, day := s.now.curTime.day }
  | sameDay {s : DayState} :
      s.rate = .poll → s.now.curTime.day = s.day → DayStep s .poll s
  | newDay {s : DayState} :
      s.rate = .poll → s.now.curTime.day ≠ s.day →
        DayStep s .poll { s with rate := .resetEntrance s.now }
  | resetEntrance {s : DayState} {tv : Clock} :
      s.rate = .resetEntrance tv → DayStep s .resetEntrance { s with
        VehicleCount := Function.update s.VehicleCount .EntranceTotal 0
        rate := .resetFrontage tv }
  | resetFrontage {s : DayState} {tv : Clock} :
      s.rate = .resetFrontage tv → DayStep s .resetFrontage { s with
        VehicleCount := Function.update s.VehicleCount .FrontageTotal 0
        rate := .poll
        day := tv.curTime.day
        countDay := calendarDay tv.curTime }
  | dbStart {s : DayState} :
      s.db = .off → s.rate ≠ .off → DayStep s .dbStart { s with db := .idle }
  | opens {s : DayState} {v : Visit} :
      s.db = .idle → Opens s v → DayStep s (.opens v) { s with db := .load v }
  | repeats {s : DayState} {frontage : FrontageTable} {entrance : EntranceTable} :
      s.db = .idle → Repeats s frontage entrance →
        DayStep s .repeats { s with frontage := frontage, entrance := entrance }
  | load {s : DayState} {v : Visit} :
      s.db = .load v → DayStep s .load { s with db := .store v (s.VehicleCount v.total) }
  | store {s : DayState} {v : Visit} {read : ℕ} :
      s.db = .store v read → DayStep s .store { s with
        VehicleCount := Function.update s.VehicleCount v.total (read + 1)
        db := afterStore v }
  | read {s : DayState} {v : Visit} {read : Total → Option ℕ} {total : Total} :
      s.db = .push v read → DayStep s (.read total) { s with
        db := .push v (Function.update read total (some (s.VehicleCount total))) }
  | push {s : DayState} {v : Visit} {read : Total → Option ℕ} {frontageTotal entranceTotal : ℕ} :
      s.db = .push v read → read .FrontageTotal = some frontageTotal →
        read .EntranceTotal = some entranceTotal →
        DayStep s (.push frontageTotal entranceTotal) { s with db := afterPush v }
  | add {s : DayState} {v : Visit} :
      s.db = .add v → DayStep s .add { s.insert v with db := afterAdd v }

/-- The visits recorded so far that were captured on a day. -/
def visitsOn (s : DayState) (day : ℕ) : Total → ℕ
  | .FrontageTotal => s.frontage.rows.countP fun r => calendarDay r.captured = day
  | .EntranceTotal => s.entrance.countP fun r => calendarDay r.vehicleStart = day

end SmartPlat.VehicleDataAnalysis
