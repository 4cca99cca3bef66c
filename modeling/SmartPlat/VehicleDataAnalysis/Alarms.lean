import SmartPlat.CString
import SmartPlat.HkSdkManage.Storage
import SmartPlat.VehicleDataAnalysis.Search
import SmartPlat.VehicleDataAnalysis.Reports

set_option autoImplicit false

/-! # The list of alarms (`vehicledataanalysis.c`, `mysqlctrl.c`)

`GetIntelligentAlarm` asks for a level. It reads the levels of the two types from the configuration, turns
them into a mask of types, and runs the two statements for that mask: one counts, one lists a page. -/

namespace SmartPlat.VehicleDataAnalysis

open SmartPlat.Lib SmartPlat.HkSdkManage SmartPlat.MySql

/-! ## Statements -/

/-- The value of an `AlarmLevelSearchType_E`. -/
def AlarmLevelSearchType.value : AlarmLevelSearchType → ℕ
  | highTemp => 1 <<< 0
  | smoking => 1 <<< 1

/-- The mask of both. -/
def bothTypes : ℕ := AlarmLevelSearchType.highTemp.value ||| AlarmLevelSearchType.smoking.value

/-- The `alarmtype`s of a text. The `default` texts order by `startdate`, which the alarm table does not have:
    they are refused. -/
def alarmtypes (type : ℕ) : List ℤ :=
  if type = AlarmLevelSearchType.highTemp.value then [AlarmLevelSearchType.highTemp.alarmtype]
  else if type = AlarmLevelSearchType.smoking.value then [AlarmLevelSearchType.smoking.alarmtype]
  else if type = bothTypes then
    [AlarmLevelSearchType.smoking.alarmtype, AlarmLevelSearchType.highTemp.alarmtype]
  else []

/-- The condition of the two statements. -/
def alarmSelected [Server] (type : ℕ) (start endTime : TimeYMD) (r : AlarmRow) : Bool :=
  inWindow start endTime r.alarmdate && r.alarmtype ∈ alarmtypes type

/-- `r` may come before `s`: it is not earlier. -/
def Later (r s : AlarmRow) : Prop := s.alarmdate.datetime ≤ r.alarmdate.datetime

/-- How the server answers `order by alarmdate desc`, which leaves the order of rows with one date open. -/
structure DateOrder where
  order : List AlarmRow → List AlarmRow
  perm : ∀ rows, (order rows).Perm rows
  sorted : ∀ rows, (order rows).Pairwise Later

namespace ByMask

/-- `MySqlCtrlGetAlarmListSumBySearchType` -/
def mySqlCtrlGetAlarmListSumBySearchType [Server] (t : List AlarmRow) (start endTime : TimeYMD)
    (type : ℕ) : ℕ :=
  t.countP (alarmSelected type start endTime)

/-- `MySqlCtrlGetAlarmListBySearchType`: the rows of the page, at most `num`. `(startPage-1)*num` is an
    `int`. -/
def mySqlCtrlGetAlarmListBySearchType [Server] (server : DateOrder) (t : List AlarmRow) (startPage num : ℤ)
    (start endTime : TimeYMD) (type : ℕ) : List AlarmRow :=
  limit (Int.bmod ((startPage - 1) * num) (2 ^ 32)) num
    (server.order (t.filter (alarmSelected type start endTime)))

end ByMask

/-! ## The search -/

/-- `DeviceAlarmInfo_T` -/
structure DeviceAlarmInfo where
  alrmtype : ℤ
  alarmlev : ℤ
  time : List UInt8
  alarmdata : CharArray 127
  deriving DecidableEq

/-- The entry of a row, with its level. -/
def alarmEntry (alarmlev : ℤ) (r : AlarmRow) : DeviceAlarmInfo where
  alrmtype := r.alarmtype
  alarmlev := alarmlev
  time := printf (ascii "%04d-%02d-%02d %02d:%02d:%02d")
    [.int r.alarmdate.year, .int r.alarmdate.month, .int r.alarmdate.day, .int r.alarmdate.hour,
      .int r.alarmdate.min, .int r.alarmdate.sec]
  alarmdata := snprintf 127 (.ofBuffer (utf8 r.alarmlocation))

/-- `ALARM_SMOKE` -/
def alarmSmoke : ℤ := 1

/-- `ALARM_HIGH_TEM` -/
def alarmHighTem : ℤ := 2

/-- The mask for a level; `none` where the function returns before the statements. -/
def leveltype (alarmParam : DeviceAlarmParam) (type : ℤ) : Option ℕ :=
  if type = alarmParam.hightempLev ∧ type = alarmParam.smokeLev then some bothTypes
  else if type = alarmParam.hightempLev ∧ type ≠ alarmParam.smokeLev then
    some AlarmLevelSearchType.highTemp.value
  else if type ≠ alarmParam.hightempLev ∧ type = alarmParam.smokeLev then
    some AlarmLevelSearchType.smoking.value
  else if type = 0 then some bothTypes
  else none

/-- The arguments of `GetIntelligentAlarm`, and the alarm table it finds. -/
structure AlarmSearch where
  alarms : List AlarmRow
  start : TimeYMD
  endTime : TimeYMD
  page : ℤ
  num : ℤ
  type : ℤ

/-- What `GetIntelligentAlarm` returns, and what it leaves at `total` and `alarmList`. -/
structure AlarmAnswer where
  count : ℤ
  total : ℕ
  alarmList : List DeviceAlarmInfo
  deriving DecidableEq

/-- `GetIntelligentAlarm`, with what is at `total` before and the stored item: its answer, and the item
    afterwards. -/
def getIntelligentAlarm [Server] (server : DateOrder) (q : AlarmSearch) (total : ℕ) (conf : Option CJson) :
    AlarmAnswer × Option CJson :=
  if q.num < 0 ∨ q.page < 0 then (⟨keyFalse, total, []⟩, conf)
  else
    let alarmParam := (hKsdkDeviceAlarmGet conf).2.1
    let answer : AlarmAnswer := match leveltype alarmParam q.type with
      | none => ⟨keyTrue, total, []⟩
      | some type =>
          let info := ByMask.mySqlCtrlGetAlarmListBySearchType server q.alarms q.page q.num q.start
            q.endTime type
          { count := info.length
            total := ByMask.mySqlCtrlGetAlarmListSumBySearchType q.alarms q.start q.endTime type
            alarmList := info.map fun r =>
              alarmEntry (if r.alarmtype = alarmSmoke then alarmParam.smokeLev else alarmParam.hightempLev) r }
    (answer, (hKsdkDeviceAlarmGet conf).2.2)

/-! ## Histories -/

/-- A call that reaches the stored item. -/
inductive AlarmCall where
  | set (info : DeviceAlarmParam)
  | get
  | search (q : AlarmSearch)

/-- The stored item after a call. -/
def confStep [Server] (server : DateOrder) (conf : Option CJson) : AlarmCall → Option CJson
  | .set info => (hKsdkDeviceAlarmSet info conf).2
  | .get => (hKsdkDeviceAlarmGet conf).2.2
  | .search q => (getIntelligentAlarm server q 0 conf).2

/-- The stored item after some calls. -/
def confAfter [Server] (server : DateOrder) (conf : Option CJson) (h : List AlarmCall) : Option CJson :=
  h.foldl (confStep server) conf

end SmartPlat.VehicleDataAnalysis
