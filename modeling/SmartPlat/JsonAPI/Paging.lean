import SmartPlat.CJson
import SmartPlat.Lib.Blocks
import SmartPlat.Lib.Printf
import SmartPlat.VehicleDataAnalysis.Search

set_option autoImplicit false

/-! # Lists and periods (`jsonswitch.c`, `jsonmap.c`, `vehicledataanalysis.c`, `attendancemanage.c`)

The commands that allocate an array for a number of the request, have it filled from the database and
serialise it. Of the arrays their size is modelled, and every access as an access to a whole element; what
the elements hold is left out, and so are the times of a request, which choose between loops that go
through the same elements. -/

namespace SmartPlat.JsonAPI

open SmartPlat.Lib SmartPlat.VehicleDataAnalysis

/-! ## Arrays -/

/-- The types of the elements. -/
inductive CStruct where
  | int
  | stationVehiclesInfo
  | stationHistoryInfo
  | abnormalVehicleInfo
  | deviceAlarmInfo
  | deviceAlarmCount
  | progressRate
  | refueling
  | attendanceAtt
  | vipCustomer
  | deviceEntrance
  | deviceEntranceMysql
  | deviceAlarm

/-- `sizeof`, with an `int` and an enumeration of four bytes. -/
def CStruct.sizeof : CStruct → ℕ
  | .int => 4
  | .stationVehiclesInfo => 6 * 128 + 4 + 24
  | .stationHistoryInfo => 4 * 128 + 24
  | .abnormalVehicleInfo => 4 + 24 + 3 * 128
  | .deviceAlarmInfo => 2 * 4 + 2 * 128
  | .deviceAlarmCount | .progressRate | .refueling => 2 * 4
  | .attendanceAtt => 24 + 12 + 64 + 4 * 128
  | .vipCustomer => 2 * 4 + 24 + 64 + 3 * 128
  | .deviceEntrance => 3 * 128 + 4 * 4 + 2 * 24 + 4
  | .deviceEntranceMysql => 3 * 4 + 24 + 128
  | .deviceAlarm => 128 + 4 + 128 + 24

/-- A number as a `size_t`. -/
def sizeT (n : ℤ) : ℕ := (n % 2 ^ 64).toNat

/-- `sizeof(T) * num` -/
def CStruct.bytes (T : CStruct) (num : ℤ) : ℕ := sizeT (T.sizeof * num)

/-- `memset(p, 0, size)` -/
def memset (p : Block) (size : ℕ) : Except Fault Unit := touch .badAccess p size

/-- `memcpy(…, p, size)` from an array that may be too short. -/
def memcpy (p : Block) (size : ℕ) : Except Fault Unit := touch .badAccess p size

/-- `p[i]` -/
def CStruct.at (T : CStruct) (p : Block) (i : ℕ) : Except Fault Unit :=
  element .badAccess T.sizeof p i

/-! ## Surroundings -/

/-- What a request meets. No `malloc` gets more than `PTRDIFF_MAX` bytes. -/
structure PagingServer where
  /-- The function that the handler calls is registered. -/
  registered : Bool
  /-- The `k`-th `malloc` of the request gets the bytes it asks for. -/
  grants : ℕ → ℕ → Bool
  grants_le : ∀ k size, grants k size → size < 2 ^ 63
  /-- What the statement for the total counts. -/
  total : ℤ
  /-- How many rows the statement for the list selects, without its limit. -/
  selected : ℕ
  /-- How many rows come back if a quote in the text makes another statement of it. -/
  injected : ℕ
  smokeLev : ℤ
  hightempLev : ℤ

namespace PagingServer

variable (server : PagingServer)

/-- `malloc(sizeof(T) * num)` -/
def malloc (k : ℕ) (T : CStruct) (num : ℤ) : Block :=
  if server.grants k (T.bytes num) then some (T.bytes num) else none

/-- The rows of a page, for a statement with `text` in a literal; the product is an `int`. -/
def rows (text : List UInt8) (startPage num : ℤ) : ℕ :=
  if 39 ∈ text then server.injected
  else
    (limit (((startPage - 1) * num).bmod (2 ^ 32)) num (List.replicate server.selected ())).length

/-- A list function of `mysqlctrl.c`: every row goes to the next element of `info`. -/
def fetch (T : CStruct) (text : List UInt8) (startPage num : ℤ) (info : Block) : Except Fault ℤ := do
  forRange (server.rows text startPage num) (T.at info)
  return server.rows text startPage num

/-- The text that the statement of `MySqlCtrlGetEntranceListBySerchType` contains. With the vehicle
    type and the text it does without the text. -/
def serchTypeText (type : VehicleSearchType) (fuzzyStr : List UInt8) : List UInt8 :=
  match type with
  | ⟨false, false, true, false, false⟩ | ⟨true, false, true, false, false⟩
  | ⟨true, true, true, false, false⟩ => fuzzyStr
  | _ => []

/-- That of `MySqlCtrlGetEntranceListBySerchType2`. -/
def serchType2Text (type : VehicleSearchType) (fuzzyStr : List UInt8) : List UInt8 :=
  match type with
  | ⟨false, false, true, true, false⟩ | ⟨false, true, true, true, false⟩
  | ⟨false, false, true, false, true⟩ | ⟨false, true, true, false, true⟩ => fuzzyStr
  | _ => serchTypeText type fuzzyStr

def mySqlCtrlGetEntranceListBySerchType (startPage num : ℤ) (type : VehicleSearchType)
    (fuzzyStr : List UInt8) (info : Block) : Except Fault ℤ :=
  server.fetch .deviceEntrance (serchTypeText type fuzzyStr) startPage num info

def mySqlCtrlGetEntranceListBySerchType2 (startPage num : ℤ) (type : VehicleSearchType)
    (fuzzyStr : List UInt8) (info : Block) : Except Fault ℤ :=
  server.fetch .deviceEntrance (serchType2Text type fuzzyStr) startPage num info

def mySqlCtrlGetEntranceResidenceListInfo (startPage num : ℤ) (info : Block) : Except Fault ℤ :=
  server.fetch .deviceEntranceMysql [] startPage num info

def mySqlCtrlGetAlarmListBySearchType (startPage num : ℤ) (info : Block) : Except Fault ℤ :=
  server.fetch .deviceAlarm [] startPage num info

def mySqlCtrlGetAttendanceHistoryBySearchType (startPage num : ℤ) (fuzzyStr : List UInt8)
    (info : Block) : Except Fault ℤ :=
  server.fetch .attendanceAtt fuzzyStr startPage num info

def mysqlCtrlGetFirstAttenddanceInfoByDate (page num : ℤ) (info : Block) : Except Fault ℤ :=
  server.fetch .attendanceAtt [] page num info

def mysqlCtrlGetLastVisitorsInfoByDate (page num : ℤ) (info : Block) : Except Fault ℤ :=
  server.fetch .vipCustomer [] page num info

end PagingServer

/-! ## Requests -/

/-- `cJSON_GetObjectItemValueInt`, whose result is an `int`. -/
def jsonInt (data : CJson) (name : String) : ℤ :=
  (data.getObjectItemValueInt (ascii name)).bmod (2 ^ 32)

/-- `cJSON_GetObjectItemValueString` into a buffer of `n + 1` zeros. -/
def jsonText (n : ℕ) (data : CJson) (name : String) : List UInt8 :=
  ((data.getObjectItemValueString n (ascii name)).map fun s => s.str.bytes).getD []

/-- Into a buffer of another size than it is told. -/
def storeText (buffer : Block) (n : ℕ) (data : CJson) (name : String) : Except Fault Unit :=
  match data.getObjectItemValueString n (ascii name) with
  | none => .ok ()
  | some s => touch .badAccess buffer (s.str.strlen + 1)

structure PageRequest where
  page : ℤ
  num : ℤ

def pageRequest (data : CJson) : PageRequest := ⟨jsonInt data "page", jsonInt data "num"⟩

def jsonMapGetEntranceVehiclesCurList (data : CJson) : ℤ := jsonInt data "num"

/-- The page, and `StationVehicles_T`. -/
structure StationRequest extends PageRequest where
  situationType : ℤ
  vehicleType : ℤ
  fuzzyStr : List UInt8

def jsonMapGetEntranceVehiclesListPares (data : CJson) : StationRequest where
  toPageRequest := pageRequest data
  situationType := jsonInt data "situationtype"
  vehicleType := jsonInt data "vehicletype"
  fuzzyStr := jsonText 127 data "fuzzystr"

/-- `location` and `plateNo` point to 64 bytes. -/
def jsonMapGetEntranceHistoryListPares (data : CJson) (location plateNo : Block) :
    Except Fault PageRequest := do
  storeText location 127 data "location"
  storeText plateNo 127 data "plateno"
  return pageRequest data

/-- The year and the month, in variables that were zero. -/
def jsonMapGetEntranceServiceAnalysis (data : CJson) : ℤ × ℤ :=
  let time := scanInts [(4, 45), (2, 45), (2, 32)] (jsonText 63 data "time")
  ((time[0]?).getD 0, (time[1]?).getD 0)

def jsonMapOutboundVehiclesAnalysis (data : CJson) : ℤ := jsonInt data "number"

def jsonMapAbnormalVehicleList (data : CJson) : PageRequest := pageRequest data

def jsonMapRefuelingEfficiencyAnalysis (data : CJson) : ℤ := jsonInt data "number"

def jsonMapVehicleTrajectoryAnalysis (data : CJson) : PageRequest := pageRequest data

structure AlarmRequest extends PageRequest where
  type : ℤ

def jsonMapGetIntelligentAlarm (data : CJson) : AlarmRequest where
  toPageRequest := pageRequest data
  type := jsonInt data "type"

def jsonMapGetAlarmPeriodAnalysis (data : CJson) : ℤ := jsonInt data "number"

def jsonMapGetAttendancePares (data : CJson) : PageRequest := pageRequest data

structure AttendanceRequest extends PageRequest where
  fuzzyStr : List UInt8

def jsonMapGetAttendanceListPares (data : CJson) : AttendanceRequest where
  toPageRequest := pageRequest data
  fuzzyStr := jsonText 127 data "fuzzystr"

def jsonMapGetVisitorsPares (data : CJson) : PageRequest := pageRequest data

/-! ## Answers -/

/-- How many elements are serialised; `none` is a null pointer, which adds no `data`. -/
def serialise (T : CStruct) (info : Block) (num : ℤ) : Except Fault (Option ℕ) :=
  match info with
  | none => .ok none
  | some _ => do
      forRange num.toNat (T.at info)
      return some num.toNat

def jsonMapGetEntranceVehiclesCurListMake (num : ℤ) (vehiclesInfo : Block) :
    Except Fault (Option ℕ) :=
  if num ≤ 0 then .ok none else serialise .stationVehiclesInfo vehiclesInfo num

def jsonMapGetEntranceVehiclesListMake (vehiclesInfo : Block) (num : ℤ) : Except Fault (Option ℕ) :=
  serialise .stationVehiclesInfo vehiclesInfo num

def jsonMapGetEntranceHistoryListMake (historyInfo : Block) (num : ℤ) : Except Fault (Option ℕ) :=
  if num ≤ 0 then .ok none else serialise .stationHistoryInfo historyInfo num

def jsonMapEntranceServiceAnalysisMake (data : Block) (days : ℕ) : Except Fault (Option ℕ) :=
  serialise .int data days

def jsonMapOutboundVehiclesAnalysisMake (count : ℤ) (progress1 progress2 : Block) :
    Except Fault (Option ℕ) :=
  match progress1, progress2 with
  | some _, some _ => do
      forRange count.toNat fun i => do
        CStruct.progressRate.at progress1 i
        CStruct.progressRate.at progress2 i
      return some count.toNat
  | _, _ => .ok none

def jsonMapAbnormalVehicleListMake (abnormal : Block) (number total : ℤ) :
    Except Fault (Option ℕ) :=
  if total ≤ 0 then .ok none else serialise .abnormalVehicleInfo abnormal number

def jsonMapRefuelingEfficiencyAnalysisMake (refueling : Block) (count : ℤ) :
    Except Fault (Option ℕ) :=
  if count ≤ 0 then .ok none else serialise .refueling refueling count

def jsonMapVehicleTrajectoryAnalysisMake (vehiclesInfo : Block) (number : ℤ) :
    Except Fault (Option ℕ) :=
  serialise .stationVehiclesInfo vehiclesInfo number

def jsonMapGetIntelligentAlarmMake (alarmList : Block) (number : ℤ) : Except Fault (Option ℕ) :=
  serialise .deviceAlarmInfo alarmList number

def jsonMapGetAlarmPeriodAnalysisMake (count : ℤ) (alarmCount : Block) : Except Fault (Option ℕ) :=
  serialise .deviceAlarmCount alarmCount count

def jsonMapGetAttendanceHistoryListMake (attendanceInfo : Block) (num : ℤ) :
    Except Fault (Option ℕ) :=
  if num ≤ 0 then .ok none else serialise .attendanceAtt attendanceInfo num

def jsonMapGetVisitorsListMake (visitorsInfo : Block) (num : ℤ) : Except Fault (Option ℕ) :=
  if num ≤ 0 then .ok none else serialise .vipCustomer visitorsInfo num

end SmartPlat.JsonAPI
