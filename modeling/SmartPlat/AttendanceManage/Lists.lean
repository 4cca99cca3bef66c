import SmartPlat.Lib.Table
import SmartPlat.Lib.Transition
import SmartPlat.MqttAPI.PushMessages
import SmartPlat.MySql.Statements
import SmartPlat.VehicleDataAnalysis.Search

set_option autoImplicit false

/-! # Attendance and visitor lists (`mysqlctrl.c`, `attendancemanage.c`)

The first record of each employee in a window and the last visit of each visitor, as self joins with
the rows that match nothing, in pages of `num` and as a total. Names are as the collation of the columns
takes them: two that it takes as equal are written alike. -/

namespace SmartPlat.AttendanceManage

open SmartPlat.Lib SmartPlat.MySql SmartPlat.MqttAPI SmartPlat.VehicleDataAnalysis

/-- `time > 'startDate' and time < 'endDate'` -/
def between [Server] (startTime endTime : RequestTime) (time : TimeYMD) : Bool :=
  ¬ Refused startTime endTime ∧ startTime.before time ∧ endTime.after time

/-- `order by time desc`: the rows in one of the orders the server may choose. -/
def OrderByTimeDesc {α : Type} (time : α → TimeYMD) (rows result : List α) : Prop :=
  result.Perm rows ∧ result.Pairwise fun r s => (time s).datetime ≤ (time r).datetime

/-! ## Attendance -/

/-- A row of `attenddance`. -/
structure AttendanceRow where
  id : String
  name : String
  number : String
  phonenum : String
  remarks : String
  time : TimeYMD
  plateImagePath : String
  snapImagePath : String
  deriving DecidableEq, Repr

/-- `attenddance`; `id` is the primary key. -/
structure AttendanceTable where
  rows : List AttendanceRow
  ids : (rows.map AttendanceRow.id).Nodup

/-- `AttendanceAtt_T` -/
structure AttendanceAtt where
  snapTime : TimeYMD
  phonenum : String
  name : String
  plateImagePath : String
  snapImagePath : String
  snapToken : String
  usrid : String
  deriving DecidableEq, Repr

/-- A row as it is read into `info`. The columns were filled from arrays of the same sizes. -/
def attendanceAtt (sqlrow : AttendanceRow) : AttendanceAtt where
  snapTime := sqlrow.time
  phonenum := sqlrow.phonenum
  name := sqlrow.name
  plateImagePath := sqlrow.plateImagePath
  snapImagePath := sqlrow.snapImagePath
  snapToken := sqlrow.id
  usrid := sqlrow.number

section

variable (t : AttendanceTable) (startTime endTime : RequestTime)

/-- `SELECT * FROM attenddance WHERE time > 'startDate' AND time < 'endDate'` -/
def attendanceIn [Server] : List AttendanceRow := t.rows.filter fun r => between startTime endTime r.time

/-- `T1.NAME = T2.NAME AND T1.time > T2.time` -/
def afterNamesake (t1 t2 : AttendanceRow) : Bool :=
  t1.name = t2.name ∧ t1.time.datetime > t2.time.datetime

/-- The rows both statements are about, `WHERE T2.NAME IS NULL`. -/
def firstAttenddance [Server] : List AttendanceRow :=
  whereNull (leftJoin afterNamesake (attendanceIn t startTime endTime)
    (attendanceIn t startTime endTime))

def mysqlCtrlGetFirstAttenddanceInfoSumByDate [Server] : ℕ := (firstAttenddance t startTime endTime).length

/-- `MysqlCtrlGetFirstAttenddanceInfoByDate`, on the rows in the server's order. -/
def mysqlCtrlGetFirstAttenddanceInfoByDate (page num : ℤ) (result : List AttendanceRow) :
    List AttendanceAtt :=
  (limit ((page - 1) * num) num result).map attendanceAtt

/-- `GetAttendanceRecordSum`: the result and `*num`. -/
def getAttendanceRecordSum [Server] : ℤ × ℕ :=
  (keyTrue, mysqlCtrlGetFirstAttenddanceInfoSumByDate t startTime endTime)

/-- `GetAttendanceRecord`: the result, `*sum` and the elements of `info`. -/
def getAttendanceRecord [Server] (page num : ℤ) (result : List AttendanceRow) :
    ℤ × ℕ × List AttendanceAtt :=
  (keyTrue, mysqlCtrlGetFirstAttenddanceInfoSumByDate t startTime endTime,
    mysqlCtrlGetFirstAttenddanceInfoByDate page num result)

end

/-! ## Visitors -/

/-- A row of `visitorsdata`. -/
structure VisitorsRow where
  id : String
  name : String
  number : String
  remarks : String
  time : TimeYMD
  gradescore : ℤ
  frequency : ℤ
  plateImagePath : String
  snapImagePath : String
  deriving DecidableEq, Repr

/-- `visitorsdata`; `id` is the primary key. -/
structure VisitorsTable where
  rows : List VisitorsRow
  ids : (rows.map VisitorsRow.id).Nodup

/-- `VIPCustomer_T` -/
structure VIPCustomer where
  GradeScore : ℤ
  StoreFrequency : ℤ
  snapTime : TimeYMD
  name : String
  plateImagePath : String
  snapImagePath : String
  snapToken : String
  deriving DecidableEq, Repr

/-- A row as it is read into `info`. -/
def vipCustomer (sqlrow : VisitorsRow) : VIPCustomer where
  GradeScore := sqlrow.gradescore
  StoreFrequency := sqlrow.frequency
  snapTime := sqlrow.time
  name := sqlrow.name
  plateImagePath := sqlrow.plateImagePath
  snapImagePath := sqlrow.snapImagePath
  snapToken := sqlrow.id

section

variable (t : VisitorsTable) (startTime endTime : RequestTime)

/-- `t1.name = t2.name and t1.time < t2.time` -/
def beforeNamesake (t1 t2 : VisitorsRow) : Bool :=
  t1.name = t2.name ∧ t1.time.datetime < t2.time.datetime

/-- The rows both statements are about: `where t2.id is null and` the window of `t1`. -/
def lastVisitors [Server] : List VisitorsRow :=
  (whereNull (leftJoin beforeNamesake t.rows t.rows)).filter fun t1 => between startTime endTime t1.time

def mysqlCtrlGetLastVisitorsInfoSumByDate [Server] : ℕ := (lastVisitors t startTime endTime).length

/-- `MysqlCtrlGetLastVisitorsInfoByDate`, on the rows in the server's order. -/
def mysqlCtrlGetLastVisitorsInfoByDate (page num : ℤ) (result : List VisitorsRow) : List VIPCustomer :=
  (limit ((page - 1) * num) num result).map vipCustomer

/-- `GetVisitorsInfo`: the result, `*sum` and the elements of `info`. -/
def getVisitorsInfo [Server] (page num : ℤ) (result : List VisitorsRow) : ℤ × ℕ × List VIPCustomer :=
  let sum := mysqlCtrlGetLastVisitorsInfoSumByDate t startTime endTime
  if sum > 0 then (keyTrue, sum, mysqlCtrlGetLastVisitorsInfoByDate page num result)
  else (keyFalse, sum, [])

end

/-! ## Recording attendance

`SetAttendanceRecord` looks up the latest record of an employee and records a capture when that was on
another day or more than half an hour ago. The message it builds is not sent. -/

/-- The values of the `insert`. -/
def attendanceRow (info : AttendanceAtt) : AttendanceRow where
  id := info.snapToken
  name := info.name
  number := info.usrid
  phonenum := info.phonenum
  remarks := ""
  time := info.snapTime
  plateImagePath := info.plateImagePath
  snapImagePath := info.snapImagePath

theorem attendance_ids {rows : List AttendanceRow} {row : AttendanceRow}
    (hids : (rows.map AttendanceRow.id).Nodup) (h : ∀ r ∈ rows, r.id ≠ row.id) :
    ((rows ++ [row]).map AttendanceRow.id).Nodup := by
  rw [List.map_append, List.nodup_append]
  refine ⟨hids, List.nodup_singleton _, ?_⟩
  simpa using h

/-- `MySqlCtrlAddAttendanceInfo`: the result and the table. -/
def mySqlCtrlAddAttendanceInfo (info : AttendanceAtt) (t : AttendanceTable) : ℤ × AttendanceTable :=
  if h : ∀ r ∈ t.rows, r.id ≠ info.snapToken then
    (keyTrue, ⟨t.rows ++ [attendanceRow info], attendance_ids t.ids h⟩)
  else (keyFalse, t)

/-- `select * FROM attenddance where time = (SELECT max(attenddance.time) from attenddance where number =
    'usrId')`. The number is only asked for inside. -/
def selectLatestAttendance (usrId : String) (t : AttendanceTable) : List AttendanceRow :=
  latestRows AttendanceRow.number (fun r => r.time.datetime) usrId t.rows

/-- `MySqlCtrlGetLatestAttendanceInfo`: what `*info` holds, unless it returns `KEY_FALSE`. Each row that
    is fetched overwrites the one before. -/
def mySqlCtrlGetLatestAttendanceInfo (order : RowOrder) (usrId : String) (t : AttendanceTable) :
    Option AttendanceAtt :=
  if usrId = "" then none else (order.arrange (selectLatestAttendance usrId t)).getLast?.map attendanceAtt

/-- `"%04d-%02d-%02d %02d:%02d"` -/
def minuteText (t : TimeYMD) : CString :=
  .ofBuffer (printf (ascii "%04d-%02d-%02d %02d:%02d")
    ([t.year, t.month, t.day, t.hour, t.min].map fun n => .int n))

/-- `cJSON_CreateString` -/
def text (s : String) : CJsonItem := .string (.ofBuffer (utf8 s))

/-- The object of a message about a capture. -/
def captureItem (cmd snapToken : String) (data : List (String × CJsonItem)) : CJsonItem :=
  .object [(literal "cmd", text cmd), (literal "method", text "request"),
    (literal "msgid", text snapToken), (literal "data", .object (data.map fun m => (literal m.1, m.2)))]

/-- The object of `JsonMapPushAttendance`. -/
def pushAttendanceItem (info : AttendanceAtt) : CJsonItem :=
  captureItem "pushattendance" info.snapToken [("name", text info.name), ("usrid", text info.usrid),
    ("phonenum", text info.phonenum), ("time", .string (minuteText info.snapTime)),
    ("plateimagepath", text info.plateImagePath), ("snapimagepath", text info.snapImagePath),
    ("snaptoken", text info.snapToken)]

/-- `JsonMapPushAttendance` into `char sendMsg[512] = {0}`, and the result of its caller. -/
def jsonMapPushAttendance (info : AttendanceAtt) : Except Fault ℤ :=
  ((CharBuffer.zeros 512).memcpy (pushAttendanceItem info).printUnformatted.bytes).map fun _ => keyTrue

/-- `SetAttendanceRecord`, for a capture: the result and the table. The row is stored before the message
    is made, which may go past `sendMsg`. -/
def setAttendanceRecord (order : RowOrder) (attendanceattr : AttendanceAtt) (t : AttendanceTable) :
    Except Fault ℤ × AttendanceTable :=
  match mySqlCtrlGetLatestAttendanceInfo order attendanceattr.usrid t with
  | none => (jsonMapPushAttendance attendanceattr, (mySqlCtrlAddAttendanceInfo attendanceattr t).2)
  | some info =>
      let nowtime := attendanceattr.snapTime.hour * 3600 + attendanceattr.snapTime.min * 60 +
        attendanceattr.snapTime.sec
      let aftertime := info.snapTime.hour * 3600 + info.snapTime.min * 60 + info.snapTime.sec
      if attendanceattr.snapTime.year ≠ info.snapTime.year ∨
          attendanceattr.snapTime.month ≠ info.snapTime.month ∨
          attendanceattr.snapTime.day ≠ info.snapTime.day ∨ nowtime > aftertime + 30 * 60 then
        (jsonMapPushAttendance attendanceattr, (mySqlCtrlAddAttendanceInfo attendanceattr t).2)
      else (.ok keyTrue, t)

/-! ## Captures -/

/-- A capture at a time of the calendar. -/
structure AttendanceCapture where
  attendanceattr : AttendanceAtt
  isTime : attendanceattr.snapTime.Valid ∧ attendanceattr.snapTime.year ≤ 9999

/-- Texts that stay inside the literals they are pasted into: no quote and no backslash. -/
def AttendanceCapture.Plain (c : AttendanceCapture) : Prop :=
  ∀ text ∈ [c.attendanceattr.snapToken, c.attendanceattr.name, c.attendanceattr.usrid,
      c.attendanceattr.phonenum, c.attendanceattr.plateImagePath, c.attendanceattr.snapImagePath],
    Char.ofNat 39 ∉ text.toList ∧ Char.ofNat 92 ∉ text.toList

/-- A call of `SetAttendanceRecord`: the capture, and the order in which the server returns rows. -/
structure AttendanceEvent where
  capture : AttendanceCapture
  order : RowOrder

/-- With a text that ends its literal the statements are other ones, and nothing is known of what
    they do. -/
def attendanceStep (t : AttendanceTable) (e : AttendanceEvent) (t' : AttendanceTable) : Prop :=
  e.capture.Plain → (setAttendanceRecord e.order e.capture.attendanceattr t).2 = t'

def AttendanceTable.empty : AttendanceTable := ⟨[], List.nodup_nil⟩

end SmartPlat.AttendanceManage
