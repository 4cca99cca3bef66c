import SmartPlat.CJson
import SmartPlat.HkSdkManage.Storage

set_option autoImplicit false

/-! # The stored list of NVRs (`Modules/HkSdkManage/hklistconf.c`, `ExtLibs/Config/jsonmap.c`)

`Devices.lean` has what the operations do to a list of records. Here they are as they are written: the
item that `ConfigManageGet` gives is decoded into an array on the stack, searched there and edited by
position. -/

namespace SmartPlat.HkSdkManage

open SmartPlat.Lib

/-! ## The JSON form -/

/-- The item of a camera. -/
def IpcConf.toJson (c : IpcConf) : CJson :=
  .object [("queueid", .number c.queueid), ("channel", .number c.channel),
    ("devicetype", .number c.devicetype), ("devicename", .string c.devicename.str),
    ("deviceIP", .string c.deviceIP.str)]

/-- The item of an NVR. -/
def DvrConf.toJson (c : DvrConf) : CJson :=
  .object [("channels", .number c.channels), ("port", .number c.port),
    ("Dvrname", .string c.Dvrname.str), ("IPaddress", .string c.IPaddress.str),
    ("username", .string c.username.str), ("password", .string c.password.str),
    ("serialnumber", .string c.serialnumber.str), ("IPClist", .array (c.IPClist.map IpcConf.toJson))]

/-- The same item with the port first. -/
def DvrConf.toListJson (c : DvrConf) : CJson :=
  .object [("port", .number c.port), ("channels", .number c.channels),
    ("Dvrname", .string c.Dvrname.str), ("IPaddress", .string c.IPaddress.str),
    ("username", .string c.username.str), ("password", .string c.password.str),
    ("serialnumber", .string c.serialnumber.str), ("IPClist", .array (c.IPClist.map IpcConf.toJson))]

/-- `JsonMapDvrListInfoMake` -/
def jsonMapDvrListInfoMake (Param : List HKDVRParam) : CJson :=
  .object [("Dvrlist", .array (Param.map fun p => (jsonMapDvrInfoMake p).toListJson))]

/-! ## Decoding -/

/-- What `JsonMapDvrInfoPares` fills in of an `HKDVRParam_T`. The slots are those of an array on the
    stack and hold anything at first. -/
structure DvrSlot where
  wPort : ℤ
  wChannel : ℤ
  sDvrName : DvrString
  sDeviceAddress : DvrString
  sUserName : DvrString
  sPassword : DvrString
  sDvrSerialNumber : DvrString
  HkSdkParam : ℕ → IpcConf

/-- A slot of an array that was never written to. -/
def DvrSlot.zero : DvrSlot :=
  ⟨0, 0, emptyArray _, emptyArray _, emptyArray _, emptyArray _, emptyArray _,
    fun _ => ⟨0, 0, 0, emptyArray _, emptyArray _⟩⟩

/-- `cJSON_GetObjectItemValueString` into a field: without the item the field stays as it is. -/
def readString (item : CJson) (name : String) (field : DvrString) : DvrString :=
  (item.getObjectItemValueString _ (ascii name)).getD field

/-- The elements of a JSON array are decoded into an array of `size` slots, from slot `i` on. -/
def decodeItems {α : Type} (size : ℕ) (decode : CJson → α → Except Fault α) :
    ℕ → List CJson → (ℕ → α) → Except Fault (ℕ → α)
  | _, [], slots => .ok slots
  | i, item :: items, slots =>
      if i < size then
        (decode item (slots i)).bind fun slot =>
          decodeItems size decode (i + 1) items (Function.update slots i slot)
      else .error .badAccess

def decodeIpc (IPCitem : CJson) (slot : IpcConf) : IpcConf where
  queueid := IPCitem.getObjectItemValueInt (ascii "queueid")
  channel := IPCitem.getObjectItemValueInt (ascii "channel")
  devicetype := IPCitem.getObjectItemValueInt (ascii "devicetype")
  devicename := readString IPCitem "devicename" slot.devicename
  deviceIP := readString IPCitem "deviceIP" slot.deviceIP

def decodeDvr (Dvritem : CJson) (slot : DvrSlot) : Except Fault DvrSlot :=
  let cameras : Except Fault (ℕ → IpcConf) := match Dvritem.getObjectItem (ascii "IPClist") with
    | none => .ok slot.HkSdkParam
    | some IPCArray =>
        decodeItems netIpcMaxNum (fun item slot => .ok (decodeIpc item slot)) 0 IPCArray.arrayItems
          slot.HkSdkParam
  cameras.map fun HkSdkParam =>
    { wPort := Dvritem.getObjectItemValueInt (ascii "port")
      wChannel := Dvritem.getObjectItemValueInt (ascii "channels")
      sDvrName := readString Dvritem "Dvrname" slot.sDvrName
      sDeviceAddress := readString Dvritem "IPaddress" slot.sDeviceAddress
      sUserName := readString Dvritem "username" slot.sUserName
      sPassword := readString Dvritem "password" slot.sPassword
      sDvrSerialNumber := readString Dvritem "serialnumber" slot.sDvrSerialNumber
      HkSdkParam }

/-- `JsonMapDvrInfoPares` into `HkDvrListInfo[NET_DVR_MAX_LEN]`. -/
def jsonMapDvrInfoPares (conf : Option CJson) (Param : ℕ → DvrSlot) :
    Except Fault (ℤ × (ℕ → DvrSlot)) :=
  match conf.bind fun conf => conf.getObjectItem (ascii "Dvrlist") with
  | none => .ok (keyFalse, Param)
  | some DvrArray =>
      (decodeItems netDvrMaxLen decodeDvr 0 DvrArray.arrayItems Param).map (keyTrue, ·)

/-! ## The operations -/

/-- The first slot with the serial number, or `NET_DVR_MAX_LEN`. -/
def findSlot (HkDvrListInfo : ℕ → DvrSlot) (serial : DvrString) : ℕ :=
  ((List.range netDvrMaxLen).find? fun i => (HkDvrListInfo i).sDvrSerialNumber = serial).getD
    netDvrMaxLen

/-- What the three operations share: decode, search, edit `Dvrlist` at the position that was found.
    `cJSON_GetObjectItem` and the edits follow a null pointer if there is no list. -/
def editDvrlist (stack : ℕ → DvrSlot) (serial : DvrString) (edit : ℕ → List CJson → List CJson)
    (HkDvr : Option CJson) : Except Fault CJson :=
  match HkDvr with
  | none => .error .badAccess
  | some conf =>
      if (conf.getObjectItem (ascii "Dvrlist")).isSome then
        (jsonMapDvrInfoPares HkDvr stack).map fun decoded =>
          conf.editObjectItem (ascii "Dvrlist") (.editItems (edit (findSlot decoded.2 serial)))
      else .error .badAccess

namespace Stored

/-- `JsonMapDvrInfoMake` -/
def jsonMapDvrInfoMake (Param : HKDVRParam) : CJson := (HkSdkManage.jsonMapDvrInfoMake Param).toJson

/-- `HkDvrListConfigSet` -/
def hkDvrListConfigSet (stack : ℕ → DvrSlot) (p : HKDVRParam) (HkDvr : Option CJson) :
    Except Fault CJson :=
  editDvrlist stack p.serial (fun i DvrArray => DvrArray.set i (jsonMapDvrInfoMake p)) HkDvr

/-- `HkDvrListConfigAdd` -/
def hkDvrListConfigAdd (stack : ℕ → DvrSlot) (p : HKDVRParam) (HkDvr : Option CJson) :
    Except Fault CJson :=
  editDvrlist stack p.serial (fun i DvrArray =>
    if i ≥ netDvrMaxLen then DvrArray ++ [jsonMapDvrInfoMake p]
    else DvrArray.set i (jsonMapDvrInfoMake p)) HkDvr

/-- `HkDvrListConfigDel` -/
def hkDvrListConfigDel (stack : ℕ → DvrSlot) (p : HKDVRParam) (HkDvr : Option CJson) :
    Except Fault CJson :=
  editDvrlist stack p.serial (fun i DvrArray => DvrArray.eraseIdx i) HkDvr

end Stored

/-- A call of one of the three, with the record it is given and what its array on the stack holds. -/
inductive ListCall where
  | add (p : HKDVRParam) (stack : ℕ → DvrSlot)
  | set (p : HKDVRParam) (stack : ℕ → DvrSlot)
  | del (p : HKDVRParam) (stack : ℕ → DvrSlot)

/-- What a call stores, from the item that `ConfigManageGet` gives it. -/
def ListCall.run : ListCall → Option CJson → Except Fault CJson
  | add p stack => Stored.hkDvrListConfigAdd stack p
  | set p stack => Stored.hkDvrListConfigSet stack p
  | del p stack => Stored.hkDvrListConfigDel stack p

/-! ## The requests for NVRs (`App/JsonAPI/jsonswitch.c`, `ExtLibs/Config/jsonmap.c`)

A client adds an NVR by its address, as `HksdkApiInit` does, and deletes it by the serial number that the
device has reported. -/

/-- `JsonMapsdkDeviceAddInfoPares` -/
def jsonMapsdkDeviceAddInfoPares (conf : CJson) (Param : HKDVRParam) : HKDVRParam :=
  { Param with
    HkDvrInfo := { Param.HkDvrInfo with
      wPort := conf.getObjectItemValueInt (ascii "port")
      sDvrName := readString conf "dvrname" Param.HkDvrInfo.sDvrName
      sUserName := readString conf "username" Param.HkDvrInfo.sUserName
      sPassword := readString conf "password" Param.HkDvrInfo.sPassword
      sDeviceAddress := readString conf "ipaddress" Param.HkDvrInfo.sDeviceAddress } }

/-- `JsonMapsdkDeviceDelInfoPares` -/
def jsonMapsdkDeviceDelInfoPares (conf : CJson) (Param : HKDVRParam) : HKDVRParam :=
  { Param with
    HkDvrInfo := { Param.HkDvrInfo with
      sDvrSerialNumber :=
        readString conf "sdvrserialnumber" Param.HkDvrInfo.sDvrSerialNumber } }

/-- The NVR that `HksdkApiInit` adds whenever the program starts. -/
def hksdkApiInitDevInfo : HKDVRParam :=
  { HKDVRParam.zero with
    HkDvrInfo := { HkDeviceInfo.zero with
      wPort := 8000
      sDeviceAddress := snprintf _ (.ofBuffer (ascii "10.67.1.68"))
      sUserName := snprintf _ (.ofBuffer (ascii "admin"))
      sPassword := snprintf _ (.ofBuffer (ascii "gaozhi2014")) } }

/-- An entry of a list: where its record is, and beside it, for no one to read, the serial number that
    its login reported. -/
structure Entry where
  address : Address
  reported : DvrString
  deriving DecidableEq

/-- The lists of the NVRs and the storage in which their entries are read. -/
structure Dvrs where
  μ : Storage
  reg : Registry Entry Entry

/-- The record behind an entry when `HksdkDeviceAdd` with its variables at `f` searches the list. -/
def Dvrs.searched (s : Dvrs) (f : Frame) (k : Entry) : HKDVRParam := (s.μ.zeroed f).dvrParam k.address

/-- `HksdkDeviceAdd` with its variables at `f` -/
def Dvrs.deviceAdd (s : Dvrs) (devInfo : HKDVRParam) (re : Replies) (junk : ℕ → DvrString) (f : Frame) :
    Except Fault (ℤ × Dvrs) :=
  let link (_ : AddLocals) : Entry × Entry :=
    (⟨f.dvrInfo, re.sSerialNumber⟩, ⟨f.HkDvrInfo, re.sSerialNumber⟩)
  (hksdkDeviceAdd (s.searched f) link s.reg (some devInfo) re junk).map fun r =>
    (r.1, { μ := s.μ.returned f (s.reg.isAdded (s.searched f)) (some devInfo) re, reg := r.2 })

/-- `HksdkDeviceDel` -/
def Dvrs.deviceDel (s : Dvrs) (devInfo : HKDVRParam) (junk : ℕ → DvrString) : Except Fault (ℤ × Dvrs) :=
  (hksdkDeviceDel (fun e => s.μ.deviceInfo e.address) (fun k => s.μ.dvrParam k.address) s.reg
    (some devInfo) junk).map fun r => (r.1, { s with reg := r.2 })

/-- `FunsdkDeviceAdd`, with what the SDK answers, what the stack of `HkDvrListConfigAdd` holds and where
    `HksdkDeviceAdd` has its variables. -/
def funsdkDeviceAdd (s : Dvrs) (data : Option CJson) (re : Replies) (junk : ℕ → DvrString) (f : Frame) :
    Except Fault (ℤ × Dvrs) :=
  match data with
  | none => .ok (keyFalse, s)
  | some data => s.deviceAdd (jsonMapsdkDeviceAddInfoPares data .zero) re junk f

/-- `FunsdkDeviceDel` -/
def funsdkDeviceDel (s : Dvrs) (data : Option CJson) (junk : ℕ → DvrString) : Except Fault (ℤ × Dvrs) :=
  match data with
  | none => .ok (keyFalse, s)
  | some data => s.deviceDel (jsonMapsdkDeviceDelInfoPares data .zero) junk

/-- A request of a client, the one that `HksdkApiInit` makes, or what the rest of the program does. -/
inductive DvrRequest where
  | add (data : Option CJson) (re : Replies) (junk : ℕ → DvrString) (f : Frame)
  | apiInit (re : Replies) (junk : ℕ → DvrString) (f : Frame)
  | del (data : Option CJson) (junk : ℕ → DvrString)
  | other (μ : Storage)

/-- A request is served and returns, or storage is used for something else. -/
def requestStep (s : Dvrs) (request : DvrRequest) (s' : Dvrs) : Prop :=
  match request with
  | .add data re junk f => f.Fits s.μ ∧ ∃ code, funsdkDeviceAdd s data re junk f = .ok (code, s')
  | .apiInit re junk f => f.Fits s.μ ∧ ∃ code, s.deviceAdd hksdkApiInitDevInfo re junk f = .ok (code, s')
  | .del data junk => ∃ code, funsdkDeviceDel s data junk = .ok (code, s')
  | .other μ =>
      s.μ.Spares μ (s.reg.dvrlistHead.map Entry.address ++ s.reg.deviceListHead.map Entry.address) ∧
        s' = { s with μ }

end SmartPlat.HkSdkManage
