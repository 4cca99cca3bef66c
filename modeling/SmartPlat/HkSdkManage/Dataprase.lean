import SmartPlat.Common
import SmartPlat.CJson
import SmartPlat.HkSdkManage.Basic
import SmartPlat.Lib.FirstMatch
import SmartPlat.Lib.Printf
import SmartPlat.TimeManage

set_option autoImplicit false

/-! # Alarms of the cameras (`Modules/HkSdkManage/hkDataprase.c`, `hkManage.c`)

`g_MessageCallback` has a parser fill a `DataAtt_T`, a type and a union, and hands a copy to the
database thread, which takes the type for the member of the union that was filled. -/

namespace SmartPlat.HkSdkManage

open SmartPlat.Lib

/-! ## Records -/

/-- `char field[128]` -/
abbrev TextField := CharArray 127

def deviceTypeFrontage : ℤ := 1

def deviceTypeWash : ℤ := 3

def deviceTypeIsland : ℤ := 8

def deviceTypeAlarm : ℤ := 9

/-- `ALARM_SMOKE`, `ALARM_HIGH_TEM` -/
inductive DeviceAlarmType where
  | smoke
  | highTem
  deriving DecidableEq

structure DeviceStreet where
  snapToken : TextField
  plateColor : ℤ
  vehicleType : ℤ
  time : TimeYMD
  plateNo : TextField
  deriving DecidableEq

structure DeviceEntrance where
  snapToken : TextField
  plateNo : TextField
  vehicleImagePath : TextField
  plateColor : ℤ
  vehicleType : ℤ
  vehicleColor : ℤ
  vehicleTerr : ℤ
  vehicleStart : TimeYMD
  vehicleEnd : TimeYMD
  deriving DecidableEq

structure DeviceWash where
  snapToken : TextField
  plateNo : TextField
  vehicleStart : TimeYMD
  vehicleEnd : TimeYMD
  deriving DecidableEq

structure DeviceOilLand where
  snapToken : TextField
  plateNo : TextField
  snaptime : TimeYMD
  deriving DecidableEq

structure DeviceAlarm where
  snapToken : TextField
  alarmType : DeviceAlarmType
  alarmPlace : TextField
  time : TimeYMD
  deriving DecidableEq

/-- `DataUnion`: all zero, or the member that was filled. -/
inductive DataUnion where
  | zero
  | deviceStreet (x : DeviceStreet)
  | deviceEntrance (x : DeviceEntrance)
  | deviceWash (x : DeviceWash)
  | deviceOliLand (x : DeviceOilLand)
  | deviceAlarm (x : DeviceAlarm)
  deriving DecidableEq

structure DataAtt where
  type : ℤ
  DataUnion : DataUnion
  deriving DecidableEq

/-- `memset(&deviceInfo, 0, sizeof(DataAtt_T))` -/
def DataAtt.zero : DataAtt := ⟨0, .zero⟩

/-- `VehicleAtt_T`, without the plate type, which nobody sets. -/
structure VehicleAtt where
  snapTime : TimeYMD
  plateColor : ℤ
  vehicleType : ℤ
  vehicleColor : ℤ
  vehicleTerr : ℤ
  plateNo : TextField
  plateImagePath : TextField

def VehicleAtt.zero : VehicleAtt :=
  ⟨⟨0, 0, 0, 0, 0, 0⟩, 0, 0, 0, 0, emptyArray _, emptyArray _⟩

/-! ## What the parsers are given -/

/-- The members of `NET_ITS_PLATE_RESULT` that are read; `struPicInfo` by length and type of each
    picture. -/
structure NetItsPlateResult where
  sLicense : CString
  byVehicleType : ℕ
  byColor : ℕ
  byChanIndex : ℕ
  struPicInfo : List (ℕ × ℕ)

/-- The answers of what the parsers call: the JSON parser, `iconv`, the database, `sscanf` of a date,
    the clock, `rand` and `fopen` of the picture. -/
structure PraseEnv where
  cJSONParse : CString → Option CJson
  /-- `Gb2312ToUtf8`: the string in the buffer, which is all zero before. -/
  gb2312ToUtf8 : CString → TextField
  getVehiclesTerritory : CString → ℤ
  sscanfDate : CString → TimeYMD
  curTime : TimeYMD
  rand : ℕ
  fopen : Bool

/-- `snprintf(snapToken, 128, "%04d%02d%02d%02d%02d%02d%03d", …, rand()%1000)` -/
def snapToken (env : PraseEnv) (t : TimeYMD) : TextField :=
  snprintf _ (.ofBuffer (printf (ascii "%04d%02d%02d%02d%02d%02d%03d")
    [.int t.year, .int t.month, .int t.day, .int t.hour, .int t.min, .int t.sec,
      .int (env.rand % 1000)]))

/-- `memcpy(plateNo, …, sizeof(TimeYMD_T))` of a longer field into a zeroed one. -/
def firstBytes (plateNo : TextField) : TextField :=
  snprintf _ (.ofBuffer (plateNo.str.bytes.take 24))

/-- A chain of `if(strstr(info, …) != NULL) return …`. -/
def confirm (table : List (List UInt8 × ℤ)) (info : CString) : ℤ :=
  ((table.find? fun row => (strstr row.1 info.bytes).isSome).map Prod.snd).getD 0

/-- `ConfirmTheColorOfThePlate`: the characters for yellow, blue and green. -/
def confirmTheColorOfThePlate : CString → ℤ :=
  confirm [([0xE9, 0xBB, 0x84], 2), ([0xE8, 0x93, 0x9D], 3), ([0xE7, 0xBB, 0xBF], 5)]

/-- `ConfirmTheTypeOfTheVehicle`: `largeBus`, `truck`, `vehicle` and `van` are `1` to `4`. -/
def confirmTheTypeOfTheVehicle : CString → ℤ :=
  confirm [(ascii "largeBus", 1), (ascii "truck", 2), (ascii "vehicle", 3), (ascii "van", 4),
    (ascii "buggy", 2), (ascii "SUVMPV", 3), (ascii "mediumBus", 1), (ascii "smallCar", 3),
    (ascii "miniCar", 3), (ascii "pickupTruck", 2)]

/-- `ConfirmTheColorOfTheVehicle` -/
def confirmTheColorOfTheVehicle : CString → ℤ :=
  confirm [(ascii "white", 1), (ascii "silver", 2), (ascii "gray", 3), (ascii "black", 4),
    (ascii "red", 5), (ascii "deepblue", 6), (ascii "blue", 7), (ascii "yellow", 8),
    (ascii "green", 9), (ascii "brown", 10), (ascii "pink", 11), (ascii "purple", 12),
    (ascii "deepgray", 13), (ascii "cyan", 14), (ascii "orange", 15)]

/-- `GetDeviceType`: the camera with this channel, in the first NVR with the serial number. -/
def getDeviceType (deviceListHead : List HKDVRParam) (channel : ℤ) (SerialNumber : CString) :
    Option HkDeviceParam :=
  (lookup (fun p : HKDVRParam => p.serial.str) SerialNumber deviceListHead).bind fun dvrparam =>
    ((List.finRange netIpcMaxNum).find? fun i => channel = (dvrparam.HkSdkParam i).sChannel).map
      dvrparam.HkSdkParam

/-! ## The parsers -/

/-- `无车牌` -/
def noPlate : List UInt8 := [0xE6, 0x97, 0xA0, 0xE8, 0xBD, 0xA6, 0xE7, 0x89, 0x8C]

/-- `switch(byVehicleType)` -/
def itsVehicleType (byVehicleType : ℕ) : ℤ :=
  match byVehicleType with
  | 1 | 5 => 1
  | 2 => 2
  | 3 => 3
  | 4 => 4
  | _ => 0

/-- A picture is to be saved; `&&` binds more tightly than `||`. -/
def savesPicture (pic : ℕ × ℕ) : Bool := pic.1 ≠ 0 ∧ pic.2 = 1 ∨ pic.2 = 2

/-- `ITS_PlatePrase`, with its return code. The three bytes that are copied from behind `out` come
    after the end of the string. -/
def itsPlatePrase (env : PraseEnv) (deviceListHead : List HKDVRParam)
    (pAlarmInfo : Option NetItsPlateResult) (SerialNumber : CString) (deviceInfo : DataAtt) :
    ℤ × DataAtt :=
  match pAlarmInfo with
  | none => (keyFalse, deviceInfo)
  | some r =>
      let out := env.gb2312ToUtf8 r.sLicense
      if out.str.bytes = noPlate then (keyFalse, deviceInfo)
      else
        -- the first character is the colour
        let plateNo : TextField := snprintf _ (.ofBuffer (out.str.bytes.drop 3))
        let plateColor := confirmTheColorOfThePlate out.str
        let vehicleType := itsVehicleType r.byVehicleType
        match getDeviceType deviceListHead r.byChanIndex SerialNumber with
        | none => (keyFalse, deviceInfo)
        | some ipcamInfo =>
            let type := ipcamInfo.sDeviceType
            let token := snapToken env env.curTime
            if type = deviceTypeFrontage then
              (keyTrue, ⟨type, .deviceStreet
                ⟨token, plateColor, vehicleType, env.curTime, firstBytes plateNo⟩⟩)
            else if type = deviceTypeEntrance then
              let filled : DataAtt := ⟨type, .deviceEntrance
                ⟨token, firstBytes plateNo, token, plateColor, vehicleType, r.byColor,
                  env.getVehiclesTerritory plateNo.str, env.curTime, env.curTime⟩⟩
              if r.struPicInfo.any savesPicture ∧ ¬ env.fopen then (keyFalse, filled)
              else (keyTrue, filled)
            else if type = deviceTypeWash then
              (keyTrue, ⟨type, .deviceWash ⟨token, firstBytes plateNo, env.curTime, env.curTime⟩⟩)
            else if type = deviceTypeIsland then
              (keyTrue, ⟨type, .deviceOliLand ⟨token, plateNo, env.curTime⟩⟩)
            else (keyTrue, { deviceInfo with type })

/-- `httpHeadPrase` into `msgbuf[4096]`, by way of `buf[24]`. -/
def httpHeadPrase (pAlarmInfo : CString) : Except Fault CString :=
  match (strstr (ascii "Content-Length:") pAlarmInfo.bytes).map (List.drop 15) with
  | none | some [] => .error .badAccess
  | some (_ :: ps) =>
      match strstr [13, 10, 13, 10] ps with
      | none => .error .badAccess
      | some pl =>
          let buf := ps.take (ps.length - pl.length)
          let msglen := atoi buf
          let body := pl.drop 4
          -- a negative size is a large `size_t`
          let msg := if msglen < -1 then body else body.take msglen.toNat
          if buf.length < 24 ∧ msg.length < 4096 then .ok (.ofBuffer msg) else .error .badAccess

/-- An element of `Property`. -/
def propertyPrase (env : PraseEnv) (VehicleAttr : VehicleAtt) (cJitem : CJson) : VehicleAtt :=
  let description := cJitem.getObjectItemValueString 63 (ascii "description")
  let desvalue : TextField :=
    (cJitem.getObjectItemValueString 127 (ascii "value")).getD (emptyArray _)
  match description.map (·.str.bytes) with
  | none => VehicleAttr
  | some description =>
      if description = ascii "plateColor" then
        { VehicleAttr with plateColor := confirmTheColorOfThePlate desvalue.str }
      else if description = ascii "plateNo" then
        { VehicleAttr with
          plateNo := desvalue
          vehicleTerr := env.getVehiclesTerritory desvalue.str }
      else if description = ascii "vehicleType" then
        { VehicleAttr with vehicleType := confirmTheTypeOfTheVehicle desvalue.str }
      else if description = ascii "vehicleColor" then
        { VehicleAttr with vehicleColor := confirmTheColorOfTheVehicle desvalue.str }
      else VehicleAttr

/-- An element of `CaptureResult`. -/
def capturePrase (env : PraseEnv) (VehicleAttr : VehicleAtt) (result : CJson) : VehicleAtt :=
  match result.getObjectItem (ascii "Vehicle") with
  | none => VehicleAttr
  | some cJVehicle =>
      let VehicleAttr := { VehicleAttr with
        plateImagePath := (cJVehicle.getObjectItemValueString 127 (ascii "vehicleImageURL")).getD
          VehicleAttr.plateImagePath }
      match cJVehicle.getObjectItem (ascii "Property") with
      | none => VehicleAttr
      | some cJProperty => cJProperty.arrayItems.foldl (propertyPrase env) VehicleAttr

/-- What `vca_DataPrase` fills in for the role of the camera; the token of a wash capture is written
    through `deviceOliLand`, where it has the same place. -/
def vcaUnion (env : PraseEnv) (type : ℤ) (v : VehicleAtt) : Option DataUnion :=
  let token := snapToken env v.snapTime
  if type = deviceTypeFrontage then
    some (.deviceStreet ⟨token, v.plateColor, v.vehicleType, v.snapTime, v.plateNo⟩)
  else if type = deviceTypeEntrance then
    some (.deviceEntrance ⟨token, v.plateNo, v.plateImagePath, v.plateColor, v.vehicleType,
      v.vehicleColor, v.vehicleTerr, v.snapTime, v.snapTime⟩)
  else if type = deviceTypeWash then
    some (.deviceWash ⟨token, firstBytes v.plateNo, v.snapTime, v.snapTime⟩)
  else if type = deviceTypeIsland then some (.deviceOliLand ⟨token, v.plateNo, v.snapTime⟩)
  else none

/-- `vca_DataPrase` of the message, from `cJSON_Parse` on. -/
def vcaMessagePrase (env : PraseEnv) (deviceListHead : List HKDVRParam) (msgbuf : CString)
    (SerialNumber : CString) (deviceInfo : DataAtt) : ℤ × DataAtt :=
  match env.cJSONParse msgbuf with
  | none => (keyFalse, deviceInfo)
  | some data =>
      let channel := data.getObjectItemValueInt (ascii "channelID")
      let date := ((data.getObjectItemValueString 63 (ascii "dateTime")).map (·.str)).getD
        (.ofBuffer [])
      match data.getObjectItem (ascii "CaptureResult") with
      | none => (keyFalse, deviceInfo)
      | some cJCaptureResult =>
          let VehicleAttr := cJCaptureResult.arrayItems.foldl (capturePrase env)
            { VehicleAtt.zero with snapTime := env.sscanfDate date }
          match getDeviceType deviceListHead channel SerialNumber with
          | none => (keyFalse, deviceInfo)
          | some ipcamInfo =>
              match vcaUnion env ipcamInfo.sDeviceType VehicleAttr with
              | none => (keyFalse, { deviceInfo with type := ipcamInfo.sDeviceType })
              | some DataUnion => (keyTrue, ⟨ipcamInfo.sDeviceType, DataUnion⟩)

/-- `vca_DataPrase` -/
def vcaDataPrase (env : PraseEnv) (deviceListHead : List HKDVRParam) (pAlarmInfo : Option CString)
    (SerialNumber : CString) (deviceInfo : DataAtt) : Except Fault (ℤ × DataAtt) :=
  match pAlarmInfo with
  | none => .ok (keyFalse, deviceInfo)
  | some text => (httpHeadPrase text).map fun msgbuf =>
      vcaMessagePrase env deviceListHead msgbuf SerialNumber deviceInfo

/-- `thermometry_DataPrase` and `firedetection_DataPrase`, which differ in the channel they read and in
    the alarm. -/
def alarmDataPrase (alarmType : DeviceAlarmType) (env : PraseEnv) (deviceListHead : List HKDVRParam)
    (channel : Option ℤ) (SerialNumber : CString) (deviceInfo : DataAtt) : ℤ × DataAtt :=
  match channel with
  | none => (keyFalse, deviceInfo)
  | some channel =>
      match getDeviceType deviceListHead channel SerialNumber with
      | none => (keyFalse, deviceInfo)
      | some ipcamInfo =>
          (keyTrue, ⟨ipcamInfo.sDeviceType, .deviceAlarm
            ⟨snapToken env env.curTime, alarmType, snprintf _ ipcamInfo.sDeviceName.str,
              env.curTime⟩⟩)

/-- `thermometry_DataPrase`, of `dwChannel` as an `int` -/
def thermometryDataPrase := alarmDataPrase .highTem

/-- `firedetection_DataPrase`, of `struDevInfo.byIvmsChannel` -/
def firedetectionDataPrase := alarmDataPrase .smoke

/-! ## The callback -/

/-- `lCommand` and `pAlarmInfo`: the alarms that make a record, and the others. -/
inductive CameraAlarm where
  | itsPlateResult (pAlarmInfo : Option NetItsPlateResult)
  | vcaAlarm (pAlarmInfo : Option CString)
  | thermometryAlarm (dwChannel : Option ℤ)
  | firedetectionAlarm (byIvmsChannel : Option ℤ)
  | other

/-- `g_MessageCallback`: the record that `AddVehicleInfo` puts into the list of the database thread, if
    any. Only the first parser's return code is looked at. -/
def gMessageCallback (env : PraseEnv) (deviceListHead : List HKDVRParam)
    (sSerialNumber : Option CString) (alarm : CameraAlarm) : Except Fault (Option DataAtt) :=
  match sSerialNumber with
  | none => .ok none
  | some serial =>
      match alarm with
      | .itsPlateResult pAlarmInfo =>
          let r := itsPlatePrase env deviceListHead pAlarmInfo serial .zero
          .ok (if r.1 < 0 then none else some r.2)
      | .vcaAlarm pAlarmInfo =>
          (vcaDataPrase env deviceListHead pAlarmInfo serial .zero).map fun r => some r.2
      | .thermometryAlarm dwChannel =>
          .ok (some (thermometryDataPrase env deviceListHead dwChannel serial .zero).2)
      | .firedetectionAlarm byIvmsChannel =>
          .ok (some (firedetectionDataPrase env deviceListHead byIvmsChannel serial .zero).2)
      | .other => .ok none

/-! ## The database thread -/

inductive UnionMember where
  | deviceStreet
  | deviceEntrance
  | deviceWash
  | deviceOliLand
  | deviceAlarm
  deriving DecidableEq

/-- The member that was filled. -/
def DataUnion.member : DataUnion → Option UnionMember
  | zero => none
  | deviceStreet _ => some .deviceStreet
  | deviceEntrance _ => some .deviceEntrance
  | deviceWash _ => some .deviceWash
  | deviceOliLand _ => some .deviceOliLand
  | deviceAlarm _ => some .deviceAlarm

/-- The member that `MemoryDataToDatabasePro` takes to the database for a type. -/
def memoryDataMember (type : ℤ) : Option UnionMember :=
  if type = deviceTypeFrontage then some .deviceStreet
  else if type = deviceTypeEntrance then some .deviceEntrance
  else if type = deviceTypeWash then some .deviceWash
  else if type = deviceTypeIsland then some .deviceOliLand
  else if type = deviceTypeAlarm then some .deviceAlarm
  else none

/-- The type names the member that was filled. -/
def DataAtt.Tagged (d : DataAtt) : Prop := memoryDataMember d.type = d.DataUnion.member

instance (d : DataAtt) : Decidable d.Tagged := inferInstanceAs (Decidable (_ = _))

end SmartPlat.HkSdkManage
