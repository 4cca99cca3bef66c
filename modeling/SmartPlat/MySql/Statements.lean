import SmartPlat.FuelQuantityAnalysis.Upload
import SmartPlat.Lib.GroupBy
import SmartPlat.Lib.Printf
import SmartPlat.MySql.Server
import SmartPlat.TimeManage
import SmartPlat.UsrManage.Basic

set_option autoImplicit false

/-! # Statements: their texts, sums and counts (`mysqlctrl.c`)

The statements that write users, devices and captures, as `sprintf` makes them: values are pasted
between quotes as they are. -/

namespace SmartPlat.MySql

open SmartPlat.Lib SmartPlat.UsrManage

/-! ## Records -/

/-- A `char field[128]`. -/
abbrev Field128 := CharArray 127

/-- The members of `DeviceStorageInfo_T` that are stored. -/
structure DeviceStorageInfo where
  deviceID : Field128
  onlineStatus : Int32
  deviceName : Field128

/-- `DeviceStreet_T`. -/
structure DeviceStreet where
  snapToken : Field128
  plateColor : Int32
  vehicleType : Int32
  time : TimeYMD
  plateNo : Field128

/-! ## Tables -/

def mysqlTableUsrinfo : List UInt8 := ascii "usrinfo"

def mysqlTableCamera : List UInt8 := ascii "deviceinfo"

def mysqlTableFrontage : List UInt8 := ascii "frontagedata"

/-! ## Statements -/

abbrev strArg {n : ℕ} (field : CharArray n) : PrintfArg := .str field.str.bytes

/-- A statement in its buffer: the size of the buffer and the text. -/
structure Statement where
  size : ℕ
  text : List UInt8

/-- The text `MySqlCtrlAddUsrInfo` executes: a query for the user, and the insertion if it finds none. -/
def mySqlCtrlAddUsrInfoText (info : UsrInfo) : List Statement :=
  if info.name.strlen = 0 then []
  else
    [⟨1024, snprintfBytes 1024
        (ascii "select UsrId from %s where UsrName='%s' and CountryCode='%s';")
        [.str mysqlTableUsrinfo, strArg info.usrname, strArg info.countrycode]⟩,
      ⟨1024, snprintfBytes 1024
        (ascii "insert into %s(UsrName, UsrPasswd, UsrLevel, UsrId, CountryCode, CustomName) value('%s', '%s', %d, %d, '%s', '%s');")
        [.str mysqlTableUsrinfo, strArg info.usrname, strArg info.passWord,
          .int info.userLevel.toNat, .int info.usrID.toInt32.toInt, strArg info.countrycode,
          strArg info.customname]⟩]

/-- The text `MySqlCtrlSetUsrInfo` executes. -/
def mySqlCtrlSetUsrInfoText (info : UsrInfo) : List Statement :=
  if info.name.strlen = 0 then []
  else
    [⟨512, printf
        (ascii "update %s set UsrPasswd = '%s', CustomName = '%s' where UsrName = '%s';")
        [.str mysqlTableUsrinfo, strArg info.passWord, strArg info.customname,
          strArg info.usrname]⟩]

/-- The text `MySqlCtrlAddDevice` executes. -/
def mySqlCtrlAddDeviceText (info : DeviceStorageInfo) : List Statement :=
  if info.deviceID.str.strlen = 0 then []
  else
    [⟨512, printf
        (ascii "insert into %s(deviceid,devicestatus,devicenickname) value('%s','%d','%s');")
        [.str mysqlTableCamera, strArg info.deviceID, .int info.onlineStatus.toInt,
          strArg info.deviceName]⟩]

/-- The text `MySqlCtrlDelDevice` executes. -/
def mySqlCtrlDelDeviceText (deviceID : Field128) : List Statement :=
  [⟨512, printf (ascii "delete from %s where deviceid = '%s';")
    [.str mysqlTableCamera, strArg deviceID]⟩]

/-- The date of a capture, in its buffer of 128 bytes. -/
def captureDate (time : TimeYMD) : List UInt8 :=
  snprintfBytes 128 (ascii "%04d-%02d-%02d %02d:%02d:%02d")
    [.int time.year, .int time.month, .int time.day, .int time.hour, .int time.min, .int time.sec]

/-- The text `MySqlCtrlAddFrontageInfo` executes. -/
def mySqlCtrlAddFrontageInfoText (info : DeviceStreet) : List Statement :=
  [⟨512, printf
    (ascii "insert into %s(id,platecolor,vehicletype,date,planNo) value('%s','%d','%d','%s','%s');")
    [.str mysqlTableFrontage, strArg info.snapToken, .int info.plateColor.toInt,
      .int info.vehicleType.toInt, .str (captureDate info.time), strArg info.plateNo]⟩]

/-! ## Sums and counts for reports (`mysqlctrl.c`, `attendancemanage.c`, `fuelquantity.c`)

The passenger flow as a total of a day, as a series of a day and as a series of days, and the fuel and
the oil guns of a month. A statement is modelled by the rows it returns, and the server executes them
all. -/

open SmartPlat.FuelQuantityAnalysis

/-! ## Times of requests -/

/-- `TimeYMD_T` as a request fills it in. -/
structure RequestTime where
  year : ℤ
  month : ℤ
  day : ℤ
  hour : ℤ
  min : ℤ
  sec : ℤ
  deriving DecidableEq, Repr

/-- A time that the database stores, in the members of a request. -/
def ofTimeYMD (t : TimeYMD) : RequestTime := ⟨t.year, t.month, t.day, t.hour, t.min, t.sec⟩

/-- The literal `'%04d-%02d-%02d %02d:%02d:%02d'`, if it is a date and time. -/
def RequestTime.literal (t : RequestTime) : Option TimeYMD :=
  let time : TimeYMD :=
    ⟨t.year.toNat, t.month.toNat, t.day.toNat, t.hour.toNat, t.min.toNat, t.sec.toNat⟩
  if t = ofTimeYMD time ∧ time.Valid ∧ time.year ≤ 9999 then some time else none

/-- `DATE_FORMAT(time, '%Y-%m-%d') = 'day'` -/
def RequestTime.onDay (day : RequestTime) (time : TimeYMD) : Bool :=
  time.year = day.year ∧ time.month = day.month ∧ time.day = day.day

/-- The text between the quotes. -/
def RequestTime.text (t : RequestTime) : List UInt8 := dateText t.year t.month t.day t.hour t.min t.sec

section

variable [Server]

/-- `time < 'constant'` -/
def RequestTime.after (constant : RequestTime) (time : TimeYMD) : Bool :=
  match constant.literal with
  | some date => time.datetime < date.datetime
  | none => textBefore (columnText time.datetime) constant.text

/-- `time > 'constant'` -/
def RequestTime.before (constant : RequestTime) (time : TimeYMD) : Bool :=
  match constant.literal with
  | some date => time.datetime > date.datetime
  | none => textBefore constant.text (columnText time.datetime)

/-- The server refuses a statement with these two constants. -/
def Refused (startTime endTime : RequestTime) : Prop :=
  Server.refuses = true ∧ (startTime.literal = none ∨ endTime.literal = none)

instance (startTime endTime : RequestTime) : Decidable (Refused startTime endTime) :=
  inferInstanceAs (Decidable (_ ∧ (_ ∨ _)))

/-- `time > 'startDate' and time <= 'endDate'` -/
def inDays (startTime endTime : RequestTime) (time : TimeYMD) : Bool :=
  ¬ Refused startTime endTime ∧ startTime.before time ∧ ¬ endTime.before time

end

/-! ## Columns -/

/-- What can go wrong with a column that is read as a number. -/
inductive ColumnFault where
  /-- `atoi(NULL)` -/
  | missing
  /-- The number is no `int`: C does not say what `atoi` returns. -/
  | outOfRange
  deriving DecidableEq, Repr

/-- `SUM(column)` is `NULL` over no rows. -/
def sqlSum {γ : Type} (sum : List γ → ℤ) (column : List γ) : Option ℤ :=
  match column with
  | [] => none
  | _ :: _ => some (sum column)

/-- What an `int` can hold. -/
def FitsInt (n : ℤ) : Prop := -2 ^ 31 ≤ n ∧ n < 2 ^ 31

instance (n : ℤ) : Decidable (FitsInt n) := inferInstanceAs (Decidable (-2 ^ 31 ≤ n ∧ n < 2 ^ 31))

/-- `atoi(sqlrow[k])` -/
def columnInt : Option ℤ → Except ColumnFault ℤ
  | none => .error .missing
  | some n => if FitsInt n then .ok (atoi (decimalInt n)) else .error .outOfRange

/-! ## Passenger flow -/

/-- A row of `passengerflowdata`. -/
structure PassengerFlowRow where
  id : String
  enter : ℤ
  time : TimeYMD
  isDatetime : IsDatetime time
  deriving DecidableEq

abbrev PassengerFlowTable := List PassengerFlowRow

/-- `MySqlCtrlAddPassengerFlowInfo`; `id` is the primary key. -/
def mySqlCtrlAddPassengerFlowInfo (row : PassengerFlowRow) (t : PassengerFlowTable) :
    ℤ × PassengerFlowTable :=
  if t.any fun r => r.id = row.id then (keyFalse, t) else (keyTrue, t ++ [row])

/-- The rows of a day. -/
def rowsOn (t : PassengerFlowTable) (day : RequestTime) : PassengerFlowTable :=
  t.filter fun r => day.onDay r.time

/-- The rows of a window. -/
def rowsIn [Server] (t : PassengerFlowTable) (startTime endTime : RequestTime) : PassengerFlowTable :=
  t.filter fun r => inDays startTime endTime r.time

def enterSum (rows : PassengerFlowTable) : Option ℤ := sqlSum List.sum (rows.map fun r => r.enter)

/-- `MySqlCtrlGetPassengerFlowListSum`: an aggregate without groups returns one row. -/
def mySqlCtrlGetPassengerFlowListSum (t : PassengerFlowTable) (starttime : RequestTime) :
    Except ColumnFault ℤ :=
  columnInt (enterSum (rowsOn t starttime))

/-- The text of a time: `'%Y-%m-%d'`, or `'%Y-%m-%d %H'` and `":00"`. -/
structure SeriesTime where
  date : Date
  hour : Option ℕ
  deriving DecidableEq, Repr

def hourText (time : TimeYMD) : SeriesTime := ⟨time.date, some time.hour⟩

def dayText (date : Date) : SeriesTime := ⟨date, none⟩

/-- `LeaveAndEnterNum_T` -/
structure LeaveAndEnterNum where
  dwEnterNum : ℤ
  time : SeriesTime
  deriving DecidableEq, Repr

/-- A row of a result: `count` and `time`. -/
structure SeriesRow where
  count : Option ℤ
  time : SeriesTime
  deriving DecidableEq, Repr

/-- `SELECT sum(enter) AS count, text AS time … GROUP BY key` -/
def selectSeries {κ : Type} [DecidableEq κ] (key : TimeYMD → κ) (text : κ → SeriesTime)
    (rows : PassengerFlowTable) : List SeriesRow :=
  (groupBy (fun r => key r.time) rows).map fun g => ⟨enterSum g.2, text g.1⟩

/-- `GROUP BY time` means the column, not the text that is selected under the same name. -/
def selectLineOfHour (t : PassengerFlowTable) (startTime : RequestTime) : List SeriesRow :=
  selectSeries id hourText (rowsOn t startTime)

/-- `GROUP BY DATE_FORMAT(time, '%Y-%m-%d')` -/
def selectLineOfDay [Server] (t : PassengerFlowTable) (startTime endTime : RequestTime) :
    List SeriesRow :=
  selectSeries TimeYMD.date dayText (rowsIn t startTime endTime)

/-- The rows that go to `info`: the loop leaves at a sum that is missing. -/
def seriesRows (rows : List SeriesRow) : List SeriesRow := rows.takeWhile fun row => row.count.isSome

/-- The result and the elements of `info`. -/
def readSeries (rows : List SeriesRow) : Except ColumnFault (ℤ × List LeaveAndEnterNum) :=
  if rows = [] then .ok (keyFalse, [])
  else
    ((seriesRows rows).mapM fun row => (columnInt row.count).map fun n => ⟨n, row.time⟩).map
      fun info => (info.length, info)

section

variable (order : RowOrder)

def mySqlCtrlGetPassengerFlowLineOfHour (t : PassengerFlowTable) (startTime : RequestTime) :
    Except ColumnFault (ℤ × List LeaveAndEnterNum) :=
  readSeries (order.arrange (selectLineOfHour t startTime))

def mySqlCtrlGetPassengerFlowLineOfDay [Server] (t : PassengerFlowTable)
    (startTime endTime : RequestTime) : Except ColumnFault (ℤ × List LeaveAndEnterNum) :=
  if Refused startTime endTime then .ok (0, [])
  else readSeries (order.arrange (selectLineOfDay t startTime endTime))

/-- `GetVolumeOfCommutersNum`: the result and `dwEnterNum`. -/
def getVolumeOfCommutersNum (t : PassengerFlowTable) (time : RequestTime) :
    Except ColumnFault (ℤ × ℤ) :=
  (mySqlCtrlGetPassengerFlowListSum t time).map fun n => (keyTrue, n)

/-- `GetVolumeOfCommutersOfLine` with an array: the result, `*sum` and the elements. -/
def getVolumeOfCommutersOfLine [Server] (t : PassengerFlowTable) (startTime endTime : RequestTime)
    (num : ℤ) : Except ColumnFault (ℤ × ℤ × List LeaveAndEnterNum) :=
  (if num = 1 then mySqlCtrlGetPassengerFlowLineOfHour order t startTime
    else mySqlCtrlGetPassengerFlowLineOfDay order t startTime endTime).map fun r => (keyTrue, r)

end

/-! ## Fuel -/

inductive FuelQuantityType where
  | FillQuantityType_92
  | FillQuantityType_95
  | FillQuantityType_98
  deriving DecidableEq, Repr

/-- The number the statement compares `oils` with. -/
def FuelQuantityType.oils : FuelQuantityType → ℤ
  | FillQuantityType_92 => 92
  | FillQuantityType_95 => 95
  | FillQuantityType_98 => 98

section

variable {F : Type} (t : FuelTable F) (date : RequestTime)

/-- `date_format(time, '%Y-%m') = 'date'` -/
def monthRows : FuelTable F := t.filter fun r => r.yearMonth = (date.year, date.month)

/-- The rows of a month with one kind of fuel. -/
def fuelRows (findType : FuelQuantityType) : FuelTable F :=
  (monthRows t date).filter fun r => r.oils = findType.oils

/-- `MysqlGetFuelQuantityByType`: what it stores in `*quantity`. `sumLPM` is the number at the start of
    the text of `sum(LPM)`. -/
def mysqlGetFuelQuantityByType (sumLPM : List F → ℤ) (findType : FuelQuantityType) :
    Except ColumnFault ℤ :=
  columnInt (sqlSum sumLPM ((fuelRows t date findType).map fun r => r.LPM))

/-- The calls of `GetFuelQuantityByType`, in order. -/
def getFuelQuantityByType : List FuelQuantityType :=
  [.FillQuantityType_92, .FillQuantityType_95, .FillQuantityType_98]

/-- `select count(distinct number) from …` -/
def mysqlGetOliGunSum : Except ColumnFault ℤ :=
  columnInt (some ((monthRows t date).map fun r => r.number).dedup.length)

/-- `OliGunInfo_T` -/
structure OliGunInfo where
  number : ℤ
  frequency : ℤ
  deriving DecidableEq, Repr

/-- `select number,count(number) from … group by number` -/
def selectOliGunFrequency : List (ℤ × ℕ) :=
  (groupBy (fun r => r.number) (monthRows t date)).map fun g => (g.1, g.2.length)

/-- `MysqlGetOliGunFrequency`: the result and the elements of `info`. -/
def mysqlGetOliGunFrequency (order : RowOrder) : Except ColumnFault (ℤ × List OliGunInfo) :=
  let rows := order.arrange (selectOliGunFrequency t date)
  if rows = [] then .ok (keyFalse, [])
  else
    (rows.mapM fun row => (columnInt (some row.1)).bind fun number =>
      (columnInt (some row.2)).map fun frequency => ⟨number, frequency⟩).map fun info => (keyTrue, info)

end

end SmartPlat.MySql
