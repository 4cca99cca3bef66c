import SmartPlat.CJson
import SmartPlat.CString
import SmartPlat.VehicleDataAnalysis.Search
import SmartPlat.VehicleDataAnalysis.Trajectory

set_option autoImplicit false

/-! # Station lists and reports (`mysqlctrl.c`, `vehicledataanalysis.c`)

The entries of a page are fetched into memory of `malloc`, column by column, and copied from there to the
entries of the answer. What no column is written to keeps what was in the memory before. -/

namespace SmartPlat.VehicleDataAnalysis

open SmartPlat.Lib SmartPlat.MySql

/-! ## Texts in memory -/

/-- A text of the database, as it comes over the connection. -/
def utf8 (s : String) : List UInt8 := s.toByteArray.data.toList

/-- The first bytes of a buffer are overwritten. -/
def overwrite (bytes buffer : List UInt8) : List UInt8 := bytes ++ buffer.drop bytes.length

/-- `snprintf(buffer, size, "%s", s)` -/
def snprintfTo (size : ℕ) (s buffer : List UInt8) : List UInt8 :=
  overwrite (s.take (size - 1) ++ [0]) buffer

/-- The string that starts at the buffer. -/
def textOf (buffer : List UInt8) : List UInt8 := (CString.ofBuffer buffer).bytes

def zeros (n : ℕ) : List UInt8 := List.replicate n 0

/-! ## Labels -/

/-- `GetPlateColorByType` -/
def getPlateColorByType (type : ℤ) : String :=
  if type = 2 then "黄色" else if type = 3 then "蓝色" else if type = 5 then "绿色" else "其他"

/-- `GetVehiclesByType` -/
def getVehiclesByType (type : ℤ) : String :=
  if type = 1 then "大客车" else if type = 2 then "货车" else if type = 3 then "轿车"
  else if type = 4 then "面包车" else "其他"

/-- `sprintf(field, "%s", label)` -/
def putLabel (label : String) (buffer : List UInt8) : List UInt8 := overwrite (utf8 label ++ [0]) buffer

/-- The table `platnoareaninfo`, which the program only reads: the `city_name` of an `id`. -/
abbrev PlatNoAreas := ℤ → Option CString

/-- `MySqlCtrlGetPlatNoAreaById`, for the city. -/
def mySqlCtrlGetPlatNoAreaById (areas : PlatNoAreas) (areaId : ℤ) (city : List UInt8) : List UInt8 :=
  if areaId ≤ 0 then city
  else
    match areas areaId with
    | none => city
    | some name => snprintfTo 32 name.bytes city

/-! ## The station list -/

/-- `DeviceEntrance_T` in memory. -/
structure EntranceMem where
  snapToken : List UInt8
  plateNo : List UInt8
  vehicleImagePath : List UInt8
  plateColor : ℤ
  vehicleType : ℤ
  vehicleColor : ℤ
  vehicleTerr : ℤ
  vehicleStart : TimeYMD
  stay : ℤ
  deriving DecidableEq, Repr

/-- A round of the loop over the rows in `MySqlCtrlGetEntranceListBySerchType2`. -/
def EntranceMem.fetch (sqlrow : EntranceGroup) (info : EntranceMem) : EntranceMem :=
  { info with
    stay := sqlrow.stay
    plateNo := snprintfTo 128 (utf8 sqlrow.plateNo) info.plateNo
    vehicleStart := sqlrow.vehicleStart
    vehicleTerr := sqlrow.vehicleTerr
    -- the fifth column is `platecolor`
    vehicleColor := sqlrow.vehicleColor
    vehicleType := sqlrow.vehicleType
    vehicleImagePath := snprintfTo 128 (utf8 sqlrow.vehicleImagePath) info.vehicleImagePath
    snapToken := snprintfTo 128 (utf8 sqlrow.snapToken) info.snapToken }

/-- `StationVehiclesInfo_T` -/
structure StationVehiclesInfo where
  snapToken : List UInt8
  picPath : List UInt8
  plateNo : List UInt8
  territory : List UInt8
  plateClor : List UInt8
  carType : List UInt8
  refuelNo : ℤ
  time : TimeYMD
  deriving DecidableEq, Repr

/-- A round of the loop in `GetEntranceVehiclesList`. -/
def EntranceMem.station (areas : PlatNoAreas) (info : EntranceMem) : StationVehiclesInfo where
  snapToken := zeros 128
  picPath := overwrite (info.vehicleImagePath.take 128) (zeros 128)
  plateNo := overwrite (info.plateNo.take 128) (zeros 128)
  territory := mySqlCtrlGetPlatNoAreaById areas info.vehicleTerr (zeros 128)
  plateClor := putLabel (getPlateColorByType info.plateColor) (zeros 128)
  carType := putLabel (getVehiclesByType info.vehicleType) (zeros 128)
  refuelNo := info.stay
  time := info.vehicleStart

structure StationReply where
  ret : ℤ
  totalnum : ℕ
  vehiclesInfo : List StationVehiclesInfo
  deriving DecidableEq, Repr

/-- `GetEntranceVehiclesList`, on the groups in the server's order and with `mem` in the memory of the
    page. -/
def getEntranceVehiclesList [Server] (areas : PlatNoAreas) (mem : ℕ → EntranceMem) (page num : ℤ)
    (stationAttr : StationVehicles) (t : EntranceTable) (result : List EntranceGroup) : StationReply :=
  if num ≤ 0 then ⟨keyFalse, 0, []⟩
  else
    let serchInfo := stationAttr.serchInfo
    let total := mySqlCtrlGetEntranceListSumBySerchType2 t stationAttr.vehicleStart
      stationAttr.vehicleEnd serchInfo
    if total = 0 then ⟨keyTrue, 0, []⟩
    else
      let rows := mySqlCtrlGetEntranceListBySerchType2 page num result
      ⟨rows.length, total, rows.mapIdx fun i sqlrow => ((mem i).fetch sqlrow).station areas⟩

/-! ## The list of the long stays -/

/-- `DeviceEntranceMysql_T` in memory. -/
structure EntranceMysqlMem where
  staytime : ℤ
  vehicleTerr : ℤ
  vehicleType : ℤ
  vehicleStart : TimeYMD
  plateNo : List UInt8
  deriving DecidableEq, Repr

/-- A round of the loop over the rows in `MySqlCtrlGetEntranceResidenceListInfo`. -/
def EntranceMysqlMem.fetch [Server] (sqlrow : DeviceEntrance) (info : EntranceMysqlMem) :
    EntranceMysqlMem where
  plateNo := snprintfTo 128 (utf8 sqlrow.plateNo) info.plateNo
  vehicleTerr := sqlrow.vehicleTerr
  vehicleType := sqlrow.vehicleType
  vehicleStart := sqlrow.vehicleStart
  staytime := sqlrow.staytime

/-- `AbnormalVehicleInfo_T` -/
structure AbnormalVehicleInfo where
  staytime : ℤ
  time : TimeYMD
  plateNo : List UInt8
  carType : List UInt8
  territory : List UInt8
  deriving DecidableEq, Repr

/-- A round of the loop in `GetAbnormalVehicleList`: of the plate `sizeof(TimeYMD_T)` bytes are copied. -/
def EntranceMysqlMem.abnormal (areas : PlatNoAreas) (info : EntranceMysqlMem)
    (abnormal : AbnormalVehicleInfo) : AbnormalVehicleInfo where
  staytime := info.staytime
  time := info.vehicleStart
  plateNo := overwrite (info.plateNo.take 24) abnormal.plateNo
  carType := putLabel (getVehiclesByType info.vehicleType) abnormal.carType
  territory :=
    overwrite ((mySqlCtrlGetPlatNoAreaById areas info.vehicleTerr (zeros 32)).take 32) abnormal.territory

/-- The entries `GetAbnormalVehicleList` makes of its page, with `mem` in the memory of the page and
    `abnormal` in that of the answer. -/
def abnormalVehicleInfos [Server] (areas : PlatNoAreas) (mem : ℕ → EntranceMysqlMem)
    (abnormal : ℕ → AbnormalVehicleInfo) (rows : List DeviceEntrance) : List AbnormalVehicleInfo :=
  rows.mapIdx fun i sqlrow => ((mem i).fetch sqlrow).abnormal areas (abnormal i)

/-! ## Reports

The reports that put several counts next to one another. -/

/-! ## The visits of a plate by months -/

/-- The end of a round of the loop: on to the next month. -/
def nextMonth (startTime : TimeYMD) : TimeYMD :=
  if startTime.month = 12 then { startTime with year := startTime.year + 1, month := 1 }
  else { startTime with month := startTime.month + 1 }

/-- `searchTypeInfo` -/
def historySerch (plateNo : FuzzyStr) : VehicleSearchInfo where
  vehicleType := vehicletypeAll
  type := ⟨false, false, true, false, false⟩
  vehicleTerr := 0
  fuzzyStr := plateNo

/-- The loop of `GetEntranceHistoryCount`. -/
def historyCounts [Server] (t : EntranceTable) (plateNo : FuzzyStr) : ℕ → TimeYMD → List ℕ
  | 0, _ => []
  | count + 1, startTime =>
      let time := { startTime with day := 31 }
      mySqlCtrlGetEntranceListSumBySerchType t startTime time (historySerch plateNo) ::
        historyCounts t plateNo count (nextMonth startTime)

/-- `GetEntranceHistoryCount`; the end of the request is not looked at. -/
def getEntranceHistoryCount [Server] (t : EntranceTable) (startTime _endTime : TimeYMD)
    (plateNo : FuzzyStr) : List ℕ :=
  historyCounts t plateNo 12 startTime

/-! ## Classes of the visits

The reports run several statements, and other threads run theirs in between: `t₁`, `t₂` and `t₃` are the
table at each of them. -/

/-- A row of `platnoareaninfo`. -/
structure PlatNoArea where
  id : ℤ
  province_name : String
  deriving DecidableEq, Repr

/-- `MySqlCtrlGetEntranceListSumByLocation` -/
def mySqlCtrlGetEntranceListSumByLocation [Server] (areas : List PlatNoArea) (t : EntranceTable)
    (startTime endTime : TimeYMD) (location : FuzzyStr) : ℕ :=
  t.countP fun r => inWindow startTime endTime r.vehicleStart &&
    areas.any fun a => a.id = r.vehicleTerr && a.province_name = location.text

structure PlaceAttribution where
  ProvinceCount : ℤ
  OutProvinceCount : ℤ
  deriving DecidableEq, Repr

/-- `GetEntrancePlateAnalysis` -/
def getEntrancePlateAnalysis [Server] (areas : List PlatNoArea) (t₁ t₂ : EntranceTable)
    (startTime endTime : TimeYMD) (location : FuzzyStr) : Option PlaceAttribution :=
  let ProvinceCount : ℤ := mySqlCtrlGetEntranceListSumByLocation areas t₁ startTime endTime location
  if ProvinceCount < 0 then none
  else
    let num : ℤ := mySqlCtrlGetEntranceListSumByTime t₂ startTime endTime
    if num < 0 then none
    else some { ProvinceCount, OutProvinceCount := num - ProvinceCount }

structure RefuelingType where
  GasolineCount : ℤ
  DieselOilCount : ℤ
  deriving DecidableEq, Repr

/-- `searchTypeInfo` of a vehicle type. -/
def vehicleSerch (vehicleType : ℤ) : VehicleSearchInfo where
  vehicleType := vehicleType
  type := ⟨false, true, false, false, false⟩
  vehicleTerr := 0
  fuzzyStr := ⟨"", plainText_empty⟩

/-- `GetRefuelingTypeAnalysis`: `truck` and `largeBus` run on diesel. -/
def getRefuelingTypeAnalysis [Server] (t₁ t₂ t₃ : EntranceTable) (Time1 Time2 : TimeYMD) : RefuelingType :=
  let DieselOilCount : ℤ :=
    mySqlCtrlGetEntranceListSumBySerchType t₁ Time1 Time2 (vehicleSerch 2) +
      mySqlCtrlGetEntranceListSumBySerchType t₂ Time1 Time2 (vehicleSerch 1)
  let total : ℤ := mySqlCtrlGetEntranceListSumBySerchType t₃ Time1 Time2
    { vehicleSerch vehicletypeAll with type := ⟨false, false, false, false, false⟩ }
  { GasolineCount := total - DieselOilCount, DieselOilCount }

structure ResidenceTime where
  count1 : ℤ
  count2 : ℤ
  count3 : ℤ
  deriving DecidableEq, Repr

/-- `GetResidenceTimeAnalysis` -/
def getResidenceTimeAnalysis [Server] (t₁ t₂ t₃ : EntranceTable) (startTime endTime : TimeYMD) :
    ResidenceTime where
  count1 := mySqlCtrlGetEntranceResidenceByTime t₁ startTime endTime .min1
  count2 := mySqlCtrlGetEntranceResidenceByTime t₂ startTime endTime .min2
  count3 := mySqlCtrlGetEntranceResidenceByTime t₃ startTime endTime .min3

/-- A statement of the database thread. -/
inductive EntranceWrite where
  | add (info : DeviceEntrance)
  | setEnd (token : String) (info : DeviceEntrance)
  deriving DecidableEq, Repr

def EntranceWrite.run (t : EntranceTable) : EntranceWrite → EntranceTable
  | .add info => (mySqlCtrlAddEntranceInfo info t).2
  | .setEnd token info => (mysqlCtrlUpdateEntranceInfo token info t).2

/-- The table, and the tables the statements of a report have seen so far. -/
structure ReportState where
  table : EntranceTable
  seen : List EntranceTable
  deriving DecidableEq, Repr

inductive ReportEvent where
  | write (w : EntranceWrite)
  /-- The next statement of the report. -/
  | statement
  deriving DecidableEq, Repr

def ReportState.after (s : ReportState) : ReportEvent → ReportState
  | .write w => { s with table := w.run s.table }
  | .statement => { s with seen := s.seen ++ [s.table] }

/-- The statements of both threads run one at a time, under `selfMutex`. -/
def reportStep (s : ReportState) (e : ReportEvent) (s' : ReportState) : Prop := s' = s.after e

/-! ## Passing vehicles by type and colour -/

/-- The rows of a request; a start without a year asks for the whole table. -/
def frontageWindow [Server] (startTime endTime date : TimeYMD) : Bool :=
  startTime.year = 0 || inWindow startTime endTime date

/-- `MySqlCtrlGetFrontageListSumBySearchtype`; `-1` asks for nothing. Without a year the text would have two
    `where`s for a type and a colour. -/
def mySqlCtrlGetFrontageListSumBySearchtype [Server] (t : List FrontageRow) (startTime endTime : TimeYMD)
    (Vehicle_Type Plate_Color : ℤ) : ℕ :=
  if startTime.year = 0 ∧ Plate_Color ≠ -1 ∧ Vehicle_Type ≠ -1 then 0
  else
    t.countP fun r => frontageWindow startTime endTime r.date &&
      (Plate_Color = -1 || r.platecolor = Plate_Color) &&
      (Vehicle_Type = -1 || r.vehicletype = Vehicle_Type)

structure VehicleType where
  VanCount : ℕ
  BusCount : ℕ
  TruckCount : ℕ
  CarCount : ℕ
  OtherCount : ℕ
  deriving DecidableEq, Repr

structure PlateColor where
  BlueCount : ℕ
  YellowCount : ℕ
  GreenCount : ℕ
  OtherCount : ℕ
  deriving DecidableEq, Repr

structure StreetTypeAttr where
  vehickeType : VehicleType
  plateType : PlateColor
  deriving DecidableEq, Repr

/-- `GetFrontageVehiclesSum` -/
def getFrontageVehiclesSum [Server] (t : List FrontageRow) (startTime endTime : TimeYMD) :
    StreetTypeAttr where
  vehickeType :=
    { VanCount := mySqlCtrlGetFrontageListSumBySearchtype t startTime endTime 4 (-1)
      BusCount := mySqlCtrlGetFrontageListSumBySearchtype t startTime endTime 1 (-1)
      TruckCount := mySqlCtrlGetFrontageListSumBySearchtype t startTime endTime 2 (-1)
      CarCount := mySqlCtrlGetFrontageListSumBySearchtype t startTime endTime 3 (-1)
      OtherCount := mySqlCtrlGetFrontageListSumBySearchtype t startTime endTime 0 (-1) }
  plateType :=
    { BlueCount := mySqlCtrlGetFrontageListSumBySearchtype t startTime endTime (-1) 3
      GreenCount := mySqlCtrlGetFrontageListSumBySearchtype t startTime endTime (-1) 5
      YellowCount := mySqlCtrlGetFrontageListSumBySearchtype t startTime endTime (-1) 2
      OtherCount := mySqlCtrlGetFrontageListSumBySearchtype t startTime endTime (-1) 0 }

/-- The members of the answer, with the counts they are for. -/
def streetMembers (streetAttr : StreetTypeAttr) : List (String × ℕ) :=
  [("vancount", streetAttr.vehickeType.VanCount), ("buscount", streetAttr.vehickeType.BusCount),
    ("tructcount", streetAttr.vehickeType.TruckCount), ("carcount", streetAttr.vehickeType.CarCount),
    ("othercount", streetAttr.vehickeType.OtherCount), ("bluecount", streetAttr.plateType.BlueCount),
    ("yellowcount", streetAttr.plateType.YellowCount), ("greecount", streetAttr.plateType.GreenCount),
    ("othercount", streetAttr.plateType.OtherCount)]

/-- `JsonMapGetFrontageVehiclesSumMake` -/
def jsonMapGetFrontageVehiclesSumMake (streetAttr : StreetTypeAttr) : CJson :=
  .object ((streetMembers streetAttr).map fun m => (m.1, .number m.2))

/-! ## Fuelling and washing -/

section

variable (t : List DeviceTrajectory) (startTime endTime : TimeYMD)

/-- `UNIX_TIMESTAMP(arrivalenddate) - UNIX_TIMESTAMP(washenddate)` -/
def DeviceTrajectory.endGap [Server] (r : DeviceTrajectory) : ℤ :=
  Server.unixTimestamp r.arrivalenddate - Server.unixTimestamp r.washenddate

/-- `UNIX_TIMESTAMP(arrivalstartdate) - UNIX_TIMESTAMP(washstartdate)` -/
def DeviceTrajectory.startGap [Server] (r : DeviceTrajectory) : ℤ :=
  Server.unixTimestamp r.arrivalstartdate - Server.unixTimestamp r.washstartdate

/-- `MysqlCtrlGetaddWithoutWashNum` -/
def mysqlCtrlGetaddWithoutWashNum [Server] : ℕ :=
  t.countP fun r => r.arrivalstartdate = r.washstartdate &&
    inWindow startTime endTime r.arrivalstartdate

/-- `MysqlCtrlGetWashWithoutaddNum` -/
def mysqlCtrlGetWashWithoutaddNum [Server] : ℕ :=
  t.countP fun r => r.endGap > 0 && r.endGap < 60 &&
    inWindow startTime endTime r.arrivalstartdate

/-- `MysqlCtrlGetaddAndwashNum` -/
def mysqlCtrlGetaddAndwashNum [Server] : ℕ :=
  t.countP fun r => r.arrivalstartdate ≠ r.washstartdate && r.startGap > 3 * 60 &&
    inWindow startTime endTime r.arrivalstartdate

/-- `MysqlCtrlGetwashAndaddNum` -/
def mysqlCtrlGetwashAndaddNum [Server] : ℕ :=
  t.countP fun r => r.arrivalstartdate ≠ r.washstartdate && r.endGap > 5 * 60 &&
    inWindow startTime endTime r.arrivalstartdate

/-- `MySqlCtrlWashCarListSumByTime` -/
def mySqlCtrlWashCarListSumByTime [Server] (wash : List DeviceWash) (startTime endTime : TimeYMD) : ℕ :=
  wash.countP fun r => inWindow startTime endTime r.vehicleStart

structure DeviceWashProportion where
  washcount : ℕ
  oilcount : ℕ
  meanwhilecount : ℕ
  deriving DecidableEq, Repr

/-- `GetProportionOfVehicleBehavior` -/
def getProportionOfVehicleBehavior [Server] : DeviceWashProportion where
  oilcount := mysqlCtrlGetaddWithoutWashNum t startTime endTime
  washcount := mysqlCtrlGetWashWithoutaddNum t startTime endTime
  meanwhilecount := mysqlCtrlGetaddAndwashNum t startTime endTime

structure DeviceWashStatistics where
  washcount : ℕ
  totalcount : ℕ
  washwithOutaddnum : ℕ
  addwithOutwashnum : ℕ
  addandwashnum : ℕ
  washandaddnum : ℕ
  deriving DecidableEq, Repr

/-- `GetProportionOfCarWashing` -/
def getProportionOfCarWashing [Server] (wash : List DeviceWash) (entrance : EntranceTable) :
    DeviceWashStatistics where
  washwithOutaddnum := mysqlCtrlGetWashWithoutaddNum t startTime endTime
  addwithOutwashnum := mysqlCtrlGetaddWithoutWashNum t startTime endTime
  addandwashnum := mysqlCtrlGetaddAndwashNum t startTime endTime
  washandaddnum := mysqlCtrlGetwashAndaddNum t startTime endTime
  washcount := mySqlCtrlWashCarListSumByTime wash startTime endTime
  totalcount := mySqlCtrlGetEntranceListSumByTime entrance startTime endTime

end

end SmartPlat.VehicleDataAnalysis
