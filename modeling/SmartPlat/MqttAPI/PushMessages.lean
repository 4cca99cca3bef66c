import SmartPlat.CharBuffer
import SmartPlat.CJsonPrint
import SmartPlat.CJsonParse
import SmartPlat.HkSdkManage.Dataprase
import SmartPlat.VehicleDataAnalysis.Reports

set_option autoImplicit false

/-! # Pushed messages (`jsonmap.c`, `vehicledataanalysis.c`, `mqttapi.c`)

The messages that are pushed to the web page. Each is printed into memory of its own and copied, without
its terminator, into the 512 cleared bytes of the function that sends it. -/

namespace SmartPlat

open SmartPlat.Lib

namespace CharBuffer

variable {size : ℕ}

/-- What a function sees that takes the buffer for a string. -/
def read (b : CharBuffer size) : Except Fault CString :=
  if b.Terminated then .ok b.str else .error .badAccess

/-- `sprintf(buffer, "%s", s)` -/
def sprintf (b : CharBuffer size) (s : CString) : Except Fault (CharBuffer size) :=
  b.memcpy (s.bytes ++ [0])

end CharBuffer

/-- `cJSON_GetObjectItem` -/
def CJsonItem.getObjectItem (name : String) : CJsonItem → Option CJsonItem
  | .object child => (child.find? fun c => strcasecmp c.1.bytes (ascii name)).map Prod.snd
  | _ => none

namespace MqttAPI

open SmartPlat.VehicleDataAnalysis

/-! ## Records -/

/-- `TimeYMD_T` -/
structure TimeMembers where
  year : Int32
  month : Int32
  day : Int32
  hour : Int32
  min : Int32
  sec : Int32
  deriving DecidableEq

def TimeMembers.toList (t : TimeMembers) : List ℤ :=
  [t.year.toInt, t.month.toInt, t.day.toInt, t.hour.toInt, t.min.toInt, t.sec.toInt]

/-- The members of `DeviceEntrance_T` that are pushed. -/
structure DeviceEntrance where
  plateNo : CharBuffer 128
  vehicleType : ℤ
  vehicleStart : TimeMembers

/-- The members of `DeviceAlarm_T` that are pushed. -/
structure DeviceAlarm where
  alarmType : HkSdkManage.DeviceAlarmType
  alarmPlace : CharBuffer 128
  time : TimeMembers

/-- `ALARM_SMOKE` is 1. -/
def alarmNumber : HkSdkManage.DeviceAlarmType → ℤ
  | .smoke => 1
  | .highTem => 2

/-! ## Texts -/

/-- A string constant. -/
def literal (s : String) : CString := .ofBuffer (ascii s)

/-- `"%04d-%02d-%02d %02d:%02d:%02d"` -/
def timeText (t : TimeMembers) : CString :=
  .ofBuffer (printf (ascii "%04d-%02d-%02d %02d:%02d:%02d") (t.toList.map .int))

/-- `char time[64]` with the text of a time. -/
def timeBuffer (t : TimeMembers) : Except Fault CString := do
  (← (CharBuffer.zeros 64).snprintf 64 (timeText t)).read

/-- The name that `GetVehiclesByType` writes. -/
def vehicleLabel (type : ℤ) : CString := .ofBuffer (utf8 (getVehiclesByType type))

/-- The command, and an object with its data. -/
def pushItem (cmd : String) (data : List (String × CJsonItem)) : CJsonItem :=
  .object [(literal "cmd", .string (literal cmd)),
    (literal "data", .object (data.map fun m => (literal m.1, m.2)))]

/-! ## The messages -/

section

variable {n : ℕ} (msg : CharBuffer n)

/-- `memcpy(msg, out, strlen(out))` -/
def copyPrinted (item : CJsonItem) : Except Fault (CharBuffer n) := msg.memcpy item.print.bytes

def jsonMapPushDeviceEntrancesMake (info : DeviceEntrance) (cartype : CString) (count : Int32) :
    Except Fault (CharBuffer n) := do
  let plateNo ← info.plateNo.read
  let time ← timeBuffer info.vehicleStart
  copyPrinted msg (pushItem "pushdeviceentrances"
    [("plateno", .string plateNo), ("cartype", .string cartype), ("time", .string time),
      ("refueno", .number count.toInt)])

def jsonMapPushDeviceRateProgressMake (frontageTotal entranceTotal : Int32) :
    Except Fault (CharBuffer n) :=
  copyPrinted msg (pushItem "getentrancevehiclessum"
    [("passingcount", .number frontageTotal.toInt), ("incominfcount", .number entranceTotal.toInt)])

def jsonMapPushAlarmMake (deviceAlarm : DeviceAlarm) : Except Fault (CharBuffer n) := do
  let time ← timeBuffer deviceAlarm.time
  let place ← deviceAlarm.alarmPlace.read
  copyPrinted msg (pushItem "pushalarmmessage"
    [("alarmtype", .number (alarmNumber deviceAlarm.alarmType)), ("time", .string time),
      ("place", .string place)])

end

/-- What is pushed, with the counters as they are then. -/
inductive PushMsg where
  | turnInRate (count : Int32) (entranceInfo : DeviceEntrance)
  | rateProgress (frontageTotal entranceTotal : Int32)
  | highTemp (info : DeviceAlarm)

/-- `sendMsg` in `PushTurnInRateMqttMsg`, `PushRateProgressMqttMsg` and `MqttHighTempFunc`. -/
def PushMsg.sendMsg : PushMsg → Except Fault (CharBuffer 512)
  | turnInRate count entranceInfo => do
      let cartype ← (← (CharBuffer.zeros 64).sprintf (vehicleLabel entranceInfo.vehicleType)).read
      jsonMapPushDeviceEntrancesMake (.zeros 512) entranceInfo cartype count
  | rateProgress frontageTotal entranceTotal =>
      jsonMapPushDeviceRateProgressMake (.zeros 512) frontageTotal entranceTotal
  | highTemp info => jsonMapPushAlarmMake (.zeros 512) info

/-! ## What the other side reads -/

/-- `sscanf(s, "%d-%d-%d %d:%d:%d", …)`; no `int` has more than eleven characters. -/
def scanTime (s : CString) : List ℤ :=
  scanInts [(11, 45), (11, 45), (11, 32), (11, 58), (11, 58), (11, 32)] s.bytes

/-- The text of that name is a time. -/
def HasTime (data : CJsonItem) (name : String) (t : TimeMembers) : Prop :=
  ∃ text, data.getObjectItem name = some (.string text) ∧ scanTime text = t.toList

/-- The data of the message are those of the record. -/
def PushMsg.Carried (item : CJsonItem) : PushMsg → Prop
  | turnInRate count entranceInfo =>
      item.getObjectItem "cmd" = some (.string (literal "pushdeviceentrances")) ∧
      ∃ data, item.getObjectItem "data" = some data ∧
        data.getObjectItem "plateno" = some (.string entranceInfo.plateNo.str) ∧
        data.getObjectItem "cartype" = some (.string (vehicleLabel entranceInfo.vehicleType)) ∧
        HasTime data "time" entranceInfo.vehicleStart ∧
        data.getObjectItem "refueno" = some (.number count.toInt)
  | rateProgress frontageTotal entranceTotal =>
      item.getObjectItem "cmd" = some (.string (literal "getentrancevehiclessum")) ∧
      ∃ data, item.getObjectItem "data" = some data ∧
        data.getObjectItem "passingcount" = some (.number frontageTotal.toInt) ∧
        data.getObjectItem "incominfcount" = some (.number entranceTotal.toInt)
  | highTemp info =>
      item.getObjectItem "cmd" = some (.string (literal "pushalarmmessage")) ∧
      ∃ data, item.getObjectItem "data" = some data ∧
        data.getObjectItem "alarmtype" = some (.number (alarmNumber info.alarmType)) ∧
        HasTime data "time" info.time ∧
        data.getObjectItem "place" = some (.string info.alarmPlace.str)

/-- The message stays inside its buffer, with a NUL, and parses back to the record. -/
def PushMsg.Pushed (float : List UInt8 → CJsonItem) (m : PushMsg) : Prop :=
  Ends m.sendMsg fun msg => msg.Terminated ∧
    ∃ item, CJsonItem.parse float msg.str = .ok item ∧ m.Carried item

/-! ## The messages that fit -/

/-- The characters of `%0Nd` with `N = width`. -/
def paddedLength (width : ℕ) (n : Int32) : ℕ := max width (decimalInt n.toInt).length

/-- The characters of a time. -/
def timeLength (t : TimeMembers) : ℕ :=
  paddedLength 4 t.year + paddedLength 2 t.month + paddedLength 2 t.day + paddedLength 2 t.hour +
    paddedLength 2 t.min + paddedLength 2 t.sec + 5

/-- The texts of the record are terminated, its time fits 64 bytes, and all of it the message. -/
def PushMsg.Fits : PushMsg → Prop
  | turnInRate count entranceInfo =>
      entranceInfo.plateNo.Terminated ∧ timeLength entranceInfo.vehicleStart < 64 ∧
        CJsonItem.escapedLength entranceInfo.plateNo.str +
          (utf8 (getVehiclesByType entranceInfo.vehicleType)).length +
          timeLength entranceInfo.vehicleStart + (decimalInt count.toInt).length + 110 < 512
  | rateProgress _ _ => True
  | highTemp info =>
      info.alarmPlace.Terminated ∧ timeLength info.time < 64 ∧
        CJsonItem.escapedLength info.alarmPlace.str + timeLength info.time + 91 < 512

end MqttAPI

end SmartPlat
