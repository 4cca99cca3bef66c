import SmartPlat.AttendanceManage.Lists
import SmartPlat.Lib.Transition

set_option autoImplicit false

/-! # Visits (`attendancemanage.c`, `attendancedatamap.c`, `mysqlctrl.c`, `jsonmap.c`)

`AddVisitorsInfo` looks up the latest record of a visitor, keeps a score and a number of visits for
him and pushes what it knows; the visitor list shows the score as a level. -/

namespace SmartPlat.AttendanceManage

open SmartPlat.Lib SmartPlat.MySql

/-! ## The table -/

theorem nodup_concat {rows : List VisitorsRow} {row : VisitorsRow}
    (hids : (rows.map VisitorsRow.id).Nodup) (h : ∀ r ∈ rows, r.id ≠ row.id) :
    ((rows ++ [row]).map VisitorsRow.id).Nodup := by
  rw [List.map_append, List.nodup_append]
  refine ⟨hids, List.nodup_singleton _, ?_⟩
  simpa using h

/-- The values of the `insert`. -/
def visitorsRow (info : VIPCustomer) : VisitorsRow where
  id := info.snapToken
  name := info.name
  number := info.snapToken
  remarks := ""
  time := info.snapTime
  gradescore := info.GradeScore
  frequency := info.StoreFrequency
  plateImagePath := info.plateImagePath
  snapImagePath := info.snapImagePath

/-- `MySqlCtrlAddVisitorsInfo`: the result and the table. -/
def mySqlCtrlAddVisitorsInfo (info : VIPCustomer) (t : VisitorsTable) : ℤ × VisitorsTable :=
  if h : ∀ r ∈ t.rows, r.id ≠ info.snapToken then
    (keyTrue, ⟨t.rows ++ [visitorsRow info], nodup_concat t.ids h⟩)
  else (keyFalse, t)

/-- `select * FROM visitorsdata where time = (SELECT max(visitorsdata.time) from visitorsdata where
    name = 'name')`. The name is only asked for inside. -/
def selectLatest (name : String) (t : VisitorsTable) : List VisitorsRow :=
  match ((t.rows.filter fun r => r.name = name).map fun r => r.time.datetime).max? with
  | none => []
  | some time => t.rows.filter fun r => r.time.datetime = time

/-- `MySqlCtrlGetLatestVisitorsInfo`: what `*info` holds, unless it returns `KEY_FALSE`. Each row that
    is fetched overwrites the one before. -/
def mySqlCtrlGetLatestVisitorsInfo (order : RowOrder) (name : String) (t : VisitorsTable) :
    Option VIPCustomer :=
  if name = "" then none else (order.arrange (selectLatest name t)).getLast?.map vipCustomer

/-! ## Levels -/

/-- `a < b` as an `int`. -/
def less (a b : ℤ) : ℤ := if a < b then 1 else 0

/-- `GetGradeLevel`; `0 < gradescore < 250` compares the result of the first comparison with 250. -/
def getGradeLevel (gradescore : ℤ) : ℤ :=
  if 0 = gradescore then 0
  else if less (less 0 gradescore) 250 ≠ 0 then 1
  else if less (less 249 gradescore) 500 ≠ 0 then 2
  else if less (less 499 gradescore) 750 ≠ 0 then 3
  else if less (less 749 gradescore) 1000 ≠ 0 then 4
  else if gradescore > 1000 then 5
  else 0

/-! ## Messages -/

/-- The object of `JsonMapPushVisitors`. -/
def pushVisitorsItem (info : VIPCustomer) : CJsonItem :=
  captureItem "pushvisitors" info.snapToken [("name", text info.name),
    ("gradescore", .number (getGradeLevel info.GradeScore)),
    ("storefrequency", .number info.StoreFrequency), ("time", .string (minuteText info.snapTime)),
    ("plateimagepath", text info.plateImagePath), ("snapimagepath", text info.snapImagePath),
    ("snaptoken", text info.snapToken)]

/-- `JsonMapPushVisitors` into `char sendMsg[512] = {0}`, and what `pushMqttMsg` takes for a string
    there. -/
def jsonMapPushVisitors (info : VIPCustomer) : Except Fault CString := do
  (← (CharBuffer.zeros 512).memcpy (pushVisitorsItem info).printUnformatted.bytes).read

/-! ## Captures -/

/-- What the calls of `TimeLocalYMD2Sec` in `attendancemanage.c` give, where no header declares it: an
    `int`. `zone` is what local time is ahead of UTC, in seconds. -/
def intTimeLocalYMD2Sec (zone : ℤ) (t : TimeYMD) : ℤ :=
  (timeLocalYMD2Sec t - timeLocalYMD2Sec ⟨1970, 1, 1, 0, 0, 0⟩ - zone + 2 ^ 31) % 2 ^ 32 - 2 ^ 31

/-- The score after `interval` days. -/
def decayed (GradeScore interval : ℤ) : ℤ :=
  if 0 > GradeScore - interval * 10 then 0 else GradeScore - interval * 10

/-- The days between two visits, as `AddVisitorsInfo` has them. -/
def interval (zone : ℤ) (last now : TimeYMD) : ℤ :=
  (intTimeLocalYMD2Sec zone now - intTimeLocalYMD2Sec zone last) / (3600 * 24)

/-- What `AddVisitorsInfo` makes of a capture that it records, next to the record before. -/
def recorded (zone : ℤ) (lastvipcustomerattr vipcustomerattr : VIPCustomer) : VIPCustomer :=
  if interval zone lastvipcustomerattr.snapTime vipcustomerattr.snapTime > 1 then
    if lastvipcustomerattr.snapTime.month ≠ vipcustomerattr.snapTime.month then
      { vipcustomerattr with
        StoreFrequency := 1
        GradeScore := decayed lastvipcustomerattr.GradeScore
          (interval zone lastvipcustomerattr.snapTime vipcustomerattr.snapTime) + 200 }
    else
      { vipcustomerattr with
        GradeScore := decayed lastvipcustomerattr.GradeScore
          (interval zone lastvipcustomerattr.snapTime vipcustomerattr.snapTime) + 100
        StoreFrequency := lastvipcustomerattr.StoreFrequency + 1 }
  else
    { vipcustomerattr with
      GradeScore := lastvipcustomerattr.GradeScore
      StoreFrequency := lastvipcustomerattr.StoreFrequency + 1 }

/-- The customer that a message is pushed for. -/
def pushed (info : VIPCustomer) : Except Fault (Option VIPCustomer) :=
  (jsonMapPushVisitors info).map fun _ => some info

/-- `AddVisitorsInfo`: the customer that a message is pushed for, if one is, and the table. The row is
    stored before the message is made. -/
def addVisitorsInfo (zone : ℤ) (order : RowOrder) (vipcustomerattr : VIPCustomer)
    (t : VisitorsTable) : Except Fault (Option VIPCustomer) × VisitorsTable :=
  match mySqlCtrlGetLatestVisitorsInfo order vipcustomerattr.name t with
  | none =>
      let vipcustomerattr := { vipcustomerattr with StoreFrequency := 1, GradeScore := 200 }
      (pushed vipcustomerattr, (mySqlCtrlAddVisitorsInfo vipcustomerattr t).2)
  | some lastvipcustomerattr =>
      let nowtime := intTimeLocalYMD2Sec zone vipcustomerattr.snapTime
      let aftertime := intTimeLocalYMD2Sec zone lastvipcustomerattr.snapTime
      if nowtime > aftertime + 30 * 60 then
        let vipcustomerattr := recorded zone lastvipcustomerattr vipcustomerattr
        (pushed vipcustomerattr, (mySqlCtrlAddVisitorsInfo vipcustomerattr t).2)
      else if nowtime > aftertime + 1 * 60 then (pushed vipcustomerattr, t)
      else (.ok none, t)

/-! ## Runs -/

/-- A capture: what the cameras fill in, at a time of the calendar. -/
structure Capture where
  vipcustomerattr : VIPCustomer
  isTime : vipcustomerattr.snapTime.Valid ∧ vipcustomerattr.snapTime.year ≤ 9999

/-- Texts that stay inside the literals they are pasted into: no quote and no backslash. -/
def Capture.Plain (c : Capture) : Prop :=
  ∀ text ∈ [c.vipcustomerattr.snapToken, c.vipcustomerattr.name, c.vipcustomerattr.plateImagePath,
      c.vipcustomerattr.snapImagePath],
    Char.ofNat 39 ∉ text.toList ∧ Char.ofNat 92 ∉ text.toList

instance (c : Capture) : Decidable c.Plain :=
  inferInstanceAs (Decidable (∀ text ∈ [c.vipcustomerattr.snapToken, c.vipcustomerattr.name,
      c.vipcustomerattr.plateImagePath, c.vipcustomerattr.snapImagePath],
    Char.ofNat 39 ∉ text.toList ∧ Char.ofNat 92 ∉ text.toList))

/-- A call of `AddVisitorsInfo`: the capture, the order in which the server returns rows, and the
    customer that a message is pushed for, unless the message goes past `sendMsg`. -/
structure VisitEvent where
  capture : Capture
  order : RowOrder
  pushed : Except Fault (Option VIPCustomer)

/-- With a text that ends its literal the statements are other ones, and nothing is known of what
    they do. -/
def visitStep (zone : ℤ) (t : VisitorsTable) (e : VisitEvent) (t' : VisitorsTable) : Prop :=
  e.capture.Plain → addVisitorsInfo zone e.order e.capture.vipcustomerattr t = (e.pushed, t')

def VisitorsTable.empty : VisitorsTable := ⟨[], List.nodup_nil⟩

/-! ## The visitor list -/

/-- An element of `visitorslist`. -/
structure VisitorsItem where
  /-- The level. -/
  gradescore : ℤ
  storefrequency : ℤ
  name : String
  /-- Without the seconds. -/
  time : TimeYMD
  snaptoken : String
  plateimagepath : String
  snapimagepath : String
  deriving DecidableEq, Repr

def visitorsItem (c : VIPCustomer) : VisitorsItem where
  gradescore := getGradeLevel c.GradeScore
  storefrequency := c.StoreFrequency
  name := c.name
  time := { c.snapTime with sec := 0 }
  snaptoken := c.snapToken
  plateimagepath := c.plateImagePath
  snapimagepath := c.snapImagePath

/-- `JsonMapGetVisitorsListMake`: `sum` and `visitorslist`. Elements without a name are left out. -/
def jsonMapGetVisitorsListMake (sum : ℕ) (VisitorsInfo : List VIPCustomer) (num : ℤ) :
    Option (ℕ × List VisitorsItem) :=
  if num ≤ 0 then none
  else some (sum, ((VisitorsInfo.take num.toNat).filter fun c => c.name ≠ "").map visitorsItem)

end SmartPlat.AttendanceManage
