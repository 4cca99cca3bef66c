import SmartPlat.HkSdkManage.Basic
import SmartPlat.JsonAPI.Paging
import SmartPlat.Lib.Transition
import SmartPlat.MySql.Statements

set_option autoImplicit false

/-! # Reports that fill an array (`jsonswitch.c`, `jsonmap.c`, `hkManage.c`)

`FunGetVolumeOfCommutersOfLineInfo`, `FunGetOilStationData` and `FunsdkDeviceListGet` get an array first
and have it filled afterwards. Meanwhile other threads insert rows and add NVRs. A statement is one step,
since it holds the mutex of the database; the list of NVRs is read node by node without one. -/

namespace SmartPlat.JsonAPI

open SmartPlat.Lib SmartPlat.MySql SmartPlat.FuelQuantityAnalysis SmartPlat.HkSdkManage

/-! ## Requests -/

/-- `sscanf(timebuf, "%04d-%02d-%02d", …)`: what is not scanned stays as it was. -/
def scanDate (timebuf : List UInt8) (time : RequestTime) : RequestTime :=
  let scanned := scanInts [(4, 45), (2, 45), (2, 32)] timebuf
  { time with
    year := (scanned[0]?).getD time.year
    month := (scanned[1]?).getD time.month
    day := (scanned[2]?).getD time.day }

structure LineRequest where
  starttime : RequestTime
  endtime : RequestTime
  num : ℤ
  deriving DecidableEq, Repr

/-- `starttime` and `endtime` are the variables of the caller, which nobody initialises. -/
def jsonMapGetVolumeOfCommutersOfLineInfoPares (data : CJson) (starttime endtime : RequestTime) :
    LineRequest where
  num := jsonInt data "num"
  starttime :=
    if (jsonText 127 data "starttime").length > 0 then
      { scanDate (jsonText 127 data "starttime") starttime with hour := 0, min := 0, sec := 0 }
    else ⟨1970, 1, 1, 0, 0, 0⟩
  endtime :=
    if (jsonText 127 data "endtime").length > 0 then
      { scanDate (jsonText 127 data "endtime") endtime with hour := 23, min := 59, sec := 59 }
    else ⟨1970, 1, 1, 0, 0, 0⟩

/-- The month of `FunGetOilStationData`, in a variable that was zero. -/
def oilStationDate (data : CJson) : RequestTime :=
  let scanned := scanInts [(4, 45), (2, 32)] (jsonText 127 data "date")
  ⟨(scanned[0]?).getD 0, (scanned[1]?).getD 0, 0, 0, 0, 0⟩

/-! ## The server -/

/-- Where a request is. -/
inductive ReportRequest (F : Type) where
  | idle
  /-- `FunGetVolumeOfCommutersOfLineInfo` calls `pGetVolumeOfCommutersOfLine`. -/
  | line (req : LineRequest)
  /-- `FunGetOilStationData` has the fuels `left` to ask for, and then the guns. `counted` records the
      table as it was when the guns were counted. -/
  | oil (tYmd : RequestTime) (counted : FuelTable F) (left : List FuelQuantityType)
  /-- `HksdkDeviceListGet` is at the node `cur`. -/
  | deviceList (cur : ℕ)
  /-- There is no server any more. -/
  | crashed

/-- One request, with the elements of its array, those allocated and those written. Other requests have
    arrays of their own. -/
structure ReportState (F : Type) where
  passengerflowdata : PassengerFlowTable
  fuelquantity : FuelTable F
  deviceListHead : List HKDVRParam
  request : ReportRequest F
  allocated : ℕ
  written : ℕ

def ReportState.init {F : Type} (passengerflowdata : PassengerFlowTable) (fuelquantity : FuelTable F)
    (deviceListHead : List HKDVRParam) : ReportState F :=
  ⟨passengerflowdata, fuelquantity, deviceListHead, .idle, 0, 0⟩

inductive ReportAction (F : Type) where
  | addPassengerFlowInfo (row : PassengerFlowRow)
  | addStuckPipeData (row : FuelRow F)
  | delStuckPipeDataByDate (year month : ℤ)
  | deviceAdd (dvrInfo : HKDVRParam)
  /-- A request for a series; `info` says whether its pointer is not null, from `malloc` or by chance. -/
  | getVolumeOfCommutersOfLine (data : CJson) (starttime endtime : RequestTime) (info : Bool)
  /-- A request for the data of the station; `granted` is the answer of `malloc`. -/
  | getOilStationData (data : CJson) (granted : Bool)
  | sdkDeviceListGet
  /-- The request goes on. -/
  | next

/-- The elements that `FunGetVolumeOfCommutersOfLineInfo` allocates. -/
def lineElements (num : ℤ) : ℕ := if num = 1 then 24 else num.toNat

section

variable {F : Type}

/-- After a call: a missing column ends the server, and what `atoi` makes of a number that is no `int` is
    not followed any further. -/
def ReportRequest.after {α : Type} (request : ReportRequest F) : Except ColumnFault α → ReportRequest F
  | .ok _ => request
  | .error _ => .crashed

variable (order : RowOrder) (sumLPM : List F → ℤ)

/-- The rows that a series stores in its array. -/
def lineRows [Server] (t : PassengerFlowTable) (req : LineRequest) : List SeriesRow :=
  seriesRows (order.arrange (if req.num = 1 then selectLineOfHour t req.starttime
    else selectLineOfDay t req.starttime req.endtime))

/-- The next statement, or the next node. -/
def ReportState.next [Server] (s : ReportState F) : Option (ReportState F) :=
  match s.request with
  | .idle | .crashed => none
  | .line req =>
      some { s with
        request := .after .idle (getVolumeOfCommutersOfLine order s.passengerflowdata req.starttime
          req.endtime req.num)
        written := (lineRows order s.passengerflowdata req).length }
  | .oil tYmd counted (findType :: left) =>
      some { s with
        request := .after (.oil tYmd counted left)
          (mysqlGetFuelQuantityByType s.fuelquantity tYmd sumLPM findType) }
  | .oil tYmd _ [] =>
      some { s with
        request := .after .idle (mysqlGetOliGunFrequency s.fuelquantity tYmd order)
        written := (order.arrange (selectOliGunFrequency s.fuelquantity tYmd)).length }
  | .deviceList cur =>
      match s.deviceListHead[cur]? with
      | none => some { s with request := .idle }
      | some _ => some { s with request := .deviceList (cur + 1), written := s.written + 1 }

/-- A request that does not get as far as its array is filled. -/
def ReportState.without (s : ReportState F) (request : ReportRequest F) : ReportState F :=
  { s with request := request, allocated := 0, written := 0 }

/-- `FunGetVolumeOfCommutersOfLineInfo` up to its call. -/
def ReportState.startLine (s : ReportState F) (req : LineRequest) (info : Bool) : ReportState F :=
  if info then { s with request := .line req, allocated := lineElements req.num, written := 0 }
  -- `memset` writes to the null pointer
  else if 0 < req.num then s.without .crashed
  else s.without .idle

/-- `FunGetOilStationData` from what `pGetOliGunSum` returns up to `pGetFuelQuantityByType`. The counts of
    `pGetFuelingRangeProportionByDate` are left out. -/
def ReportState.startOil (s : ReportState F) (tYmd : RequestTime) (granted : Bool) :
    Except ColumnFault ℤ → ReportState F
  | .error _ => s.without .crashed
  | .ok oliGunSum =>
      if 0 < oliGunSum then
        if granted then
          { s with
            request := .oil tYmd s.fuelquantity getFuelQuantityByType
            allocated := oliGunSum.toNat
            written := 0 }
        else s.without .crashed
      else s.without .idle

/-- `FunsdkDeviceListGet` has its array on the stack. -/
def ReportState.startDeviceList (s : ReportState F) : ReportState F :=
  { s with request := .deviceList 0, allocated := netNvrMaxNum, written := 0 }

/-- A request arrives. -/
def ReportState.start (s : ReportState F) : ReportAction F → Option (ReportState F)
  | .getVolumeOfCommutersOfLine data starttime endtime info =>
      some (s.startLine (jsonMapGetVolumeOfCommutersOfLineInfoPares data starttime endtime) info)
  | .getOilStationData data granted =>
      some (s.startOil (oilStationDate data) granted
        (mysqlGetOliGunSum s.fuelquantity (oilStationDate data)))
  | .sdkDeviceListGet => some s.startDeviceList
  | _ => none

/-- What happens, where it can. -/
def ReportState.act [Server] (s : ReportState F) (a : ReportAction F) : Option (ReportState F) :=
  match s.request, a with
  | .crashed, _ => none
  | _, .addPassengerFlowInfo row =>
      some { s with passengerflowdata := (mySqlCtrlAddPassengerFlowInfo row s.passengerflowdata).2 }
  | _, .addStuckPipeData row => some { s with fuelquantity := s.fuelquantity ++ [row] }
  | _, .delStuckPipeDataByDate year month =>
      some { s with fuelquantity := s.fuelquantity.filter fun r => r.yearMonth ≠ (year, month) }
  | _, .deviceAdd dvrInfo => some { s with deviceListHead := s.deviceListHead ++ [dvrInfo] }
  | _, .next => s.next order sumLPM
  | .idle, a => s.start a
  | _, _ => none

def reportStep [Server] (s : ReportState F) (a : ReportAction F) (s' : ReportState F) : Prop :=
  s.act order sumLPM a = some s'

end

end SmartPlat.JsonAPI
