import SmartPlat.JsonAPI.Paging

set_option autoImplicit false

/-! # Handlers of lists and periods (`jsonswitch.c`)

The functions of the analysis and the handlers over them, each with the order of its checks. -/

namespace SmartPlat.JsonAPI

open SmartPlat.Lib SmartPlat.VehicleDataAnalysis

/-! ## `vehicledataanalysis.c`, `attendancemanage.c` -/

namespace PagingServer

variable (server : PagingServer)

/-- Entry `i` of the rows is copied to entry `i` of the answer. -/
def copyElements (n : ℕ) (T : CStruct) (dst : Block) (U : CStruct) (src : Block) :
    Except Fault Unit :=
  forRange n fun i => do
    T.at dst i
    U.at src i

def getEntranceVehiclesCurList (num : ℤ) (vehiclesInfo : Block) : Except Fault ℤ :=
  if num < 0 ∨ vehiclesInfo = none then .ok keyFalse
  else do
    let info := server.malloc 1 .deviceEntrance num
    -- `sizeof(sizeof(DeviceEntrance_T)*num)`
    memset info 8
    let count ← server.mySqlCtrlGetEntranceListBySerchType2 1 num ⟨false, false, false, false, false⟩
      [] info
    copyElements count.toNat .stationVehiclesInfo vehiclesInfo .deviceEntrance info
    return count

/-- `VehicleSearchInfo_T.type` for the request. -/
def stationSearchType (attr : StationRequest) : VehicleSearchType where
  terr := false
  vehicle := attr.vehicleType ≠ vehicletypeAll
  fuzzy := attr.fuzzyStr ≠ []
  increment := attr.situationType = 1
  losses := attr.situationType = 2

def getEntranceVehiclesList (stationAttr : StationRequest) (vehiclesInfo : Block) :
    Except Fault ℤ :=
  if vehiclesInfo = none ∨ stationAttr.num ≤ 0 then .ok keyFalse
  else
    let info := server.malloc 1 .deviceEntrance stationAttr.num
    if server.total ≤ 0 then .ok keyTrue
    else do
      let count ← server.mySqlCtrlGetEntranceListBySerchType2 stationAttr.page stationAttr.num
        (stationSearchType stationAttr) stationAttr.fuzzyStr info
      copyElements count.toNat .stationVehiclesInfo vehiclesInfo .deviceEntrance info
      return count

/-- `plateno` points to 64 bytes, of which 128 are read. -/
def getEntranceHistoryList (page num : ℤ) (plateno : Block) (fuzzyStr : List UInt8)
    (historyInfo : Block) : Except Fault ℤ :=
  if historyInfo = none ∨ num ≤ 0 then .ok keyFalse
  else do
    memcpy plateno 128
    let info := server.malloc 1 .deviceEntrance num
    memset info (CStruct.deviceEntrance.bytes num)
    if server.total ≤ 0 then return keyFalse
    else
      let count ← server.mySqlCtrlGetEntranceListBySerchType page num
        ⟨false, false, true, false, false⟩ fuzzyStr info
      copyElements num.toNat .stationHistoryInfo historyInfo .deviceEntrance info
      return count

def getEntranceServiceAnalysis (days : ℕ) (data : Block) : Except Fault ℤ := do
  forRange days (CStruct.int.at data)
  return keyTrue

/-- By hours on one day and by days otherwise, `count` of them. -/
def getOutboundVehiclesAnalysis (count : ℤ) (progress : Block) : Except Fault ℤ :=
  if progress = none ∨ count < 0 then .ok keyFalse
  else do
    forRange count.toNat (CStruct.progressRate.at progress)
    return keyTrue

def getAbnormalVehicleList (page num : ℤ) (abnormal : Block) : Except Fault ℤ :=
  if abnormal = none ∨ num < 0 then .ok keyFalse
  else do
    let info := server.malloc 1 .deviceEntranceMysql num
    let count ← server.mySqlCtrlGetEntranceResidenceListInfo page num info
    copyElements count.toNat .abnormalVehicleInfo abnormal .deviceEntranceMysql info
    return count

def getRefuelingEfficiencyAnalysis (count : ℤ) (refueling : Block) : Except Fault ℤ :=
  if refueling = none ∨ count ≤ 0 then .ok keyFalse
  else do
    forRange count.toNat (CStruct.refueling.at refueling)
    return keyTrue

def getVehicleTrajectoryAnalysis (page num : ℤ) (vehiclesInfo : Block) : Except Fault ℤ :=
  if num < 0 ∨ vehiclesInfo = none then .ok keyFalse
  else if server.total < 0 then .ok keyFalse
  else do
    let info := server.malloc 1 .deviceEntrance num
    memset info (CStruct.deviceEntrance.bytes num)
    let count ← server.mySqlCtrlGetEntranceListBySerchType page num
      ⟨false, false, false, false, false⟩ [] info
    copyElements num.toNat .stationVehiclesInfo vehiclesInfo .deviceEntrance info
    return count

/-- The type is that of an alarm level, or all types are asked for. -/
def alarmTypeKnown (type : ℤ) : Prop :=
  type = server.hightempLev ∨ type = server.smokeLev ∨ type = 0

instance (type : ℤ) : Decidable (server.alarmTypeKnown type) :=
  inferInstanceAs (Decidable (_ ∨ _ ∨ _))

def getIntelligentAlarm (page num type : ℤ) (alarmList : Block) : Except Fault ℤ :=
  if alarmList = none ∨ num < 0 ∨ page < 0 then .ok keyFalse
  else if ¬ server.alarmTypeKnown type then .ok keyTrue
  else do
    let info := server.malloc 1 .deviceAlarm num
    memset info (CStruct.deviceAlarm.bytes num)
    let count ← server.mySqlCtrlGetAlarmListBySearchType page num info
    copyElements count.toNat .deviceAlarmInfo alarmList .deviceAlarm info
    return count

def getAlarmPeriodAnalysis (count : ℤ) (alarmCount : Block) : Except Fault ℤ :=
  if alarmCount = none then .ok keyFalse
  else do
    forRange count.toNat (CStruct.deviceAlarmCount.at alarmCount)
    return keyTrue

def getAttendanceRecord (page num : ℤ) (info : Block) : Except Fault ℤ :=
  if info = none then .ok keyFalse
  else do
    let _ ← server.mysqlCtrlGetFirstAttenddanceInfoByDate page num info
    return keyTrue

def getAttendanceHistoryList (startPage num : ℤ) (fuzzyStr : List UInt8) (info : Block) :
    Except Fault ℤ :=
  if info = none ∨ startPage < 0 ∨ num < 0 then .ok keyFalse
  else do
    let _ ← server.mySqlCtrlGetAttendanceHistoryBySearchType startPage num fuzzyStr info
    return keyTrue

def getVisitorsInfo (page num : ℤ) (info : Block) : Except Fault ℤ :=
  if info = none then .ok keyFalse
  else if 0 < server.total then do
    let _ ← server.mysqlCtrlGetLastVisitorsInfoByDate page num info
    return keyTrue
  else .ok keyFalse

end PagingServer

/-! ## Handlers -/

/-- The code of a handler and how many entries its `data` goes through. -/
structure Reply where
  iret : ℤ
  entries : Option ℕ
  deriving DecidableEq, Repr

def Reply.false : Reply := ⟨keyFalse, none⟩

section

variable (server : PagingServer) (data : CJson)

def funGetEntranceVehiclesCurList : Except Fault Reply := do
  let num := jsonMapGetEntranceVehiclesCurList data
  let vehiclesInfo := server.malloc 0 .stationVehiclesInfo num
  let count ← server.getEntranceVehiclesCurList num vehiclesInfo
  return ⟨keyTrue, ← jsonMapGetEntranceVehiclesCurListMake (min count num) vehiclesInfo⟩

def funGetEntranceVehiclesList : Except Fault Reply := do
  let req := jsonMapGetEntranceVehiclesListPares data
  let vehiclesInfo := server.malloc 0 .stationVehiclesInfo req.num
  memset vehiclesInfo (CStruct.stationVehiclesInfo.bytes req.num)
  let count ← server.getEntranceVehiclesList req vehiclesInfo
  return ⟨keyTrue, ← jsonMapGetEntranceVehiclesListMake vehiclesInfo (min count req.num)⟩

/-- The array is not freed when `count` is negative. -/
def funGetEntranceHistoryList : Except Fault Reply := do
  let location : Block := some 64
  let plateNo : Block := some 64
  let req ← jsonMapGetEntranceHistoryListPares data location plateNo
  let historyInfo := server.malloc 0 .stationHistoryInfo req.num
  memset historyInfo (CStruct.stationHistoryInfo.bytes req.num)
  let count ← server.getEntranceHistoryList req.page req.num plateNo (jsonText 127 data "plateno")
    historyInfo
  if count < 0 then return .false
  else
    return ⟨keyTrue, ← jsonMapGetEntranceHistoryListMake historyInfo (min count req.num)⟩

/-- `int day[12]`, with the leap day. -/
def monthDays (year : ℤ) : List ℕ :=
  [31, if year % 4 = 0 ∧ year % 100 ≠ 0 ∨ year % 400 = 0 then 29 else 28, 31, 30, 31, 30, 31, 31, 30,
    31, 30, 31]

/-- `day[time.month-1]` -/
def dayAt (year month : ℤ) : Except Fault ℕ :=
  if month - 1 < 0 then .error .badAccess
  else
    match (monthDays year)[(month - 1).toNat]? with
    | none => .error .badAccess
    | some days => .ok days

def funGetEntranceServiceAnalysis : Except Fault Reply := do
  let (year, month) := jsonMapGetEntranceServiceAnalysis data
  let date : Block := some (4 * 31)
  memset date (4 * 31)
  let days ← dayAt year month
  let _ ← PagingServer.getEntranceServiceAnalysis days date
  return ⟨keyTrue, ← jsonMapEntranceServiceAnalysisMake date days⟩

/-- A day is shown by hours. -/
def periodCount (days : ℤ) : ℤ := if days = 1 then 24 else days

def funGetOutboundVehiclesAnalysis : Except Fault Reply := do
  let count := periodCount (jsonMapOutboundVehiclesAnalysis data)
  let progress1 := server.malloc 0 .progressRate count
  let progress2 := server.malloc 1 .progressRate count
  if (← PagingServer.getOutboundVehiclesAnalysis count progress1) ≠ keyTrue then return .false
  else if (← PagingServer.getOutboundVehiclesAnalysis count progress2) ≠ keyTrue then return .false
  else return ⟨keyTrue, ← jsonMapOutboundVehiclesAnalysisMake count progress1 progress2⟩

def funGetAbnormalVehicleList : Except Fault Reply := do
  let req := jsonMapAbnormalVehicleList data
  let abnormal := server.malloc 0 .abnormalVehicleInfo req.num
  let count ← server.getAbnormalVehicleList req.page req.num abnormal
  return ⟨keyTrue, ← jsonMapAbnormalVehicleListMake abnormal (min count req.num) server.total⟩

def funGetRefuelingEfficiencyAnalysis : Except Fault Reply := do
  let count := periodCount (jsonMapRefuelingEfficiencyAnalysis data)
  let refueling := server.malloc 0 .refueling count
  if (← PagingServer.getRefuelingEfficiencyAnalysis count refueling) ≠ keyTrue then return .false
  else return ⟨keyTrue, ← jsonMapRefuelingEfficiencyAnalysisMake refueling count⟩

def funGetVehicleTrajectoryAnalysis : Except Fault Reply := do
  let req := jsonMapVehicleTrajectoryAnalysis data
  let vehiclesInfo := server.malloc 0 .stationVehiclesInfo req.num
  memset vehiclesInfo (CStruct.stationVehiclesInfo.bytes req.num)
  let count ← server.getVehicleTrajectoryAnalysis req.page req.num vehiclesInfo
  return ⟨keyTrue, ← jsonMapVehicleTrajectoryAnalysisMake vehiclesInfo (min count req.num)⟩

def funGetIntelligentAlarm : Except Fault Reply := do
  let req := jsonMapGetIntelligentAlarm data
  let alarmList := server.malloc 0 .deviceAlarmInfo req.num
  let count ← server.getIntelligentAlarm req.page req.num req.type alarmList
  return ⟨keyTrue, ← jsonMapGetIntelligentAlarmMake alarmList (min count req.num)⟩

/-- A day gets 24 elements, of which one is cleared, filled and serialised. -/
def funGetAlarmPeriodAnalysis : Except Fault Reply := do
  let count := jsonMapGetAlarmPeriodAnalysis data
  let alarmCount := server.malloc 0 .deviceAlarmCount (periodCount count)
  memset alarmCount (CStruct.deviceAlarmCount.bytes count)
  if (← PagingServer.getAlarmPeriodAnalysis count alarmCount) ≠ keyTrue then return .false
  else return ⟨keyTrue, ← jsonMapGetAlarmPeriodAnalysisMake count alarmCount⟩

def funGetAttendance : Except Fault Reply := do
  let req := jsonMapGetAttendancePares data
  let attendanceinfo := server.malloc 0 .attendanceAtt req.num
  memset attendanceinfo (CStruct.attendanceAtt.bytes req.num)
  if (← server.getAttendanceRecord req.page req.num attendanceinfo) ≠ keyTrue then return .false
  else return ⟨keyTrue, ← jsonMapGetAttendanceHistoryListMake attendanceinfo req.num⟩

def funGetAttendanceHistoryList : Except Fault Reply := do
  let req := jsonMapGetAttendanceListPares data
  let attendanceinfo := server.malloc 0 .attendanceAtt req.num
  memset attendanceinfo (CStruct.attendanceAtt.bytes req.num)
  if (← server.getAttendanceHistoryList req.page req.num req.fuzzyStr attendanceinfo) ≠ keyTrue then
    return .false
  else return ⟨keyTrue, ← jsonMapGetAttendanceHistoryListMake attendanceinfo req.num⟩

def funGetVisitorsInfo : Except Fault Reply := do
  let req := jsonMapGetVisitorsPares data
  let vipCustomerinfo := server.malloc 0 .vipCustomer req.num
  memset vipCustomerinfo (CStruct.vipCustomer.bytes req.num)
  if (← server.getVisitorsInfo req.page req.num vipCustomerinfo) ≠ keyTrue then return .false
  else return ⟨keyTrue, ← jsonMapGetVisitorsListMake vipCustomerinfo req.num⟩

end

/-! ## Commands -/

inductive PagingCommand where
  | getEntranceVehiclesCurList
  | getEntranceVehiclesList
  | getEntranceHistoryList
  | getEntranceServiceAnalysis
  | getOutboundVehiclesAnalysis
  | getAbnormalVehicleList
  | getRefuelingEfficiencyAnalysis
  | getVehicleTrajectoryAnalysis
  | getIntelligentAlarm
  | getAlarmPeriodAnalysis
  | getAttendance
  | getAttendanceHistoryList
  | getVisitorsInfo

def PagingCommand.handler : PagingCommand → PagingServer → CJson → Except Fault Reply
  | .getEntranceVehiclesCurList => funGetEntranceVehiclesCurList
  | .getEntranceVehiclesList => funGetEntranceVehiclesList
  | .getEntranceHistoryList => funGetEntranceHistoryList
  | .getEntranceServiceAnalysis => fun _ => funGetEntranceServiceAnalysis
  | .getOutboundVehiclesAnalysis => funGetOutboundVehiclesAnalysis
  | .getAbnormalVehicleList => funGetAbnormalVehicleList
  | .getRefuelingEfficiencyAnalysis => funGetRefuelingEfficiencyAnalysis
  | .getVehicleTrajectoryAnalysis => funGetVehicleTrajectoryAnalysis
  | .getIntelligentAlarm => funGetIntelligentAlarm
  | .getAlarmPeriodAnalysis => funGetAlarmPeriodAnalysis
  | .getAttendance => funGetAttendance
  | .getAttendanceHistoryList => funGetAttendanceHistoryList
  | .getVisitorsInfo => funGetVisitorsInfo

/-- With what all handlers check first. -/
def PagingCommand.serve (cmd : PagingCommand) (server : PagingServer) (data : Option CJson) :
    Except Fault Reply :=
  match data with
  | none => .ok .false
  | some data => if server.registered then cmd.handler server data else .ok .false

end SmartPlat.JsonAPI
