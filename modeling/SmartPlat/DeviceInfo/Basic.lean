import SmartPlat.CJson

set_option autoImplicit false

/-! # The station info (`Modules/DeviceInfo`, `ExtLibs/Config/jsonmap.c`, `App/JsonAPI/jsonswitch.c`)

The fields of `DeviceInfo_T` are indexed by their kind: the two functions of `jsonmap.c` treat all strings
alike and all numbers alike. -/

namespace SmartPlat.LocalInfo

open SmartPlat.Lib

/-! ## The record -/

/-- The `char` arrays of `DeviceInfo_T`. -/
inductive TextField where
  | facturer
  | model
  | uuid
  | serialNumber
  | softwareVer
  | name
  | country
  | city
  deriving DecidableEq

/-- The numbers of `DeviceInfo_T`. -/
inductive NumberField where
  | devType
  | coverDay
  | pullInterval
  | faceThreshold
  deriving DecidableEq

/-- The size of the array, without its terminator. -/
def TextField.size : TextField → ℕ
  | facturer | model | serialNumber | country | city => 63
  | uuid => 31
  | softwareVer | name => 127

/-- The name in the JSON form. -/
def TextField.key : TextField → String
  | facturer => "manufacturer"
  | model => "model"
  | uuid => "uuid"
  | serialNumber => "serialNumber"
  | softwareVer => "softwarever"
  | name => "name"
  | country => "country"
  | city => "city"

def NumberField.key : NumberField → String
  | devType => "devType"
  | coverDay => "coverday"
  | pullInterval => "pullinterval"
  | faceThreshold => "facethreshold"

/-- `DeviceInfo_T` -/
@[ext]
structure DeviceInfo where
  text : (f : TextField) → CharArray f.size
  number : NumberField → ℤ

/-- `= {0}` -/
def DeviceInfo.zero : DeviceInfo := ⟨fun _ => snprintf _ (.ofBuffer []), fun _ => 0⟩

/-! ## The JSON form -/

/-- `JsonMapDeviceInfoMake` -/
def jsonMapDeviceInfoMake (info : DeviceInfo) : CJson :=
  let text (f : TextField) : String × CJson := (f.key, .string (info.text f).str)
  let number (f : NumberField) : String × CJson := (f.key, .number (info.number f))
  .object [text .facturer, text .model, text .uuid, text .serialNumber, text .softwareVer, text .name,
    text .country, text .city, number .devType, number .coverDay, number .pullInterval,
    number .faceThreshold]

/-- `JsonMapDeviceInfoPares`: a string is taken if the item is there and has one, a number if it is
    greater than `KEY_FALSE`, which stands for a missing item. -/
def jsonMapDeviceInfoPares (conf : CJson) (info : DeviceInfo) : DeviceInfo where
  text f := (conf.getObjectItemValueString f.size (ascii f.key)).getD (info.text f)
  number f :=
    if keyFalse < conf.getObjectItemValueInt (ascii f.key) then
      conf.getObjectItemValueInt (ascii f.key)
    else info.number f

/-! ## The configuration -/

/-- What `DevInfoConfigDefault` stores. -/
def devInfoConfigDefault : DeviceInfo where
  text
    | .facturer => snprintf _ (.ofBuffer (ascii "GaoZhi"))
    | .model => snprintf _ (.ofBuffer (ascii "AIMP v1.0"))
    | .uuid => snprintf _ (.ofBuffer [])
    | .serialNumber => snprintf _ (.ofBuffer (ascii "aswQQx142zZs11Qa"))
    | .softwareVer => snprintf _ (.ofBuffer (ascii "v1.0.1"))
    | .name => snprintf _ (.ofBuffer (ascii "AIMP"))
    | .country => snprintf _ (.ofBuffer (ascii "china"))
    | .city => snprintf _ (.ofBuffer (ascii "changsha"))
  number
    | .devType => 2
    | .coverDay => 1
    | .pullInterval => 5
    | .faceThreshold => 70

/-- `DevInfoConfigGet` into a cleared record, and what is stored afterwards. -/
def devInfoConfigGet (stored : Option CJson) : DeviceInfo × CJson :=
  let conf := stored.getD (jsonMapDeviceInfoMake devInfoConfigDefault)
  (jsonMapDeviceInfoPares conf .zero, conf)

/-- The checks of `SetDeviceInfo`. -/
def DeviceInfo.InRange (info : DeviceInfo) : Prop :=
  (1 ≤ info.number .coverDay ∧ info.number .coverDay ≤ 7) ∧
    (1 ≤ info.number .pullInterval ∧ info.number .pullInterval ≤ 10) ∧
    1 ≤ info.number .faceThreshold ∧ info.number .faceThreshold ≤ 100

instance (info : DeviceInfo) : Decidable info.InRange := inferInstanceAs (Decidable (_ ∧ _))

/-- `SetDeviceInfo`: the result, and the item it gives to `ConfigManageSet`. -/
def setDeviceInfo (info : DeviceInfo) : ℤ × Option CJson :=
  if info.InRange then (keyTrue, some (jsonMapDeviceInfoMake info)) else (keyFalse, none)

/-! ## The requests -/

/-- `FunGetBaseInfo`: the record whose JSON form is in the response, and what is stored afterwards. -/
def funGetBaseInfo (stored : Option CJson) : DeviceInfo × CJson := devInfoConfigGet stored

/-- What a request makes of a record. -/
def merge (data : Option CJson) (baseInfo : DeviceInfo) : DeviceInfo :=
  data.elim baseInfo fun data => jsonMapDeviceInfoPares data baseInfo

/-- `FunSetBaseInfo`: the result, and what is stored afterwards. -/
def funSetBaseInfo (stored : Option CJson) (data : Option CJson) : ℤ × CJson :=
  let (baseInfo, conf) := devInfoConfigGet stored
  let (ret, new) := setDeviceInfo (merge data baseInfo)
  (ret, new.getD conf)

end SmartPlat.LocalInfo
