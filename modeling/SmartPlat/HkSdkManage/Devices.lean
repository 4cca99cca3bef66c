import SmartPlat.Common
import SmartPlat.HkSdkManage.Basic
import SmartPlat.Lib.FirstMatch
import SmartPlat.Lib.Printf

set_option autoImplicit false

/-! # Adding, removing and changing NVRs (`Modules/HkSdkManage/hkManage.c`, `hklistconf.c`)

The two lists hold entries of types `ι` and `κ` with readers `info` and `param` that give the record
behind an entry. The source links pointers, which are read in the storage of the moment. With records as
entries and the identity as reader this is what the functions do as long as the lists own what they
link. -/

namespace SmartPlat.HkSdkManage

open SmartPlat.Lib

/-! ## The stored configuration -/

/-- An item of `IPClist`. -/
structure IpcConf where
  queueid : ℤ
  channel : ℤ
  devicetype : ℤ
  devicename : DvrString
  deviceIP : DvrString
  deriving DecidableEq

/-- An item of `Dvrlist`. -/
structure DvrConf where
  channels : ℕ
  port : ℤ
  Dvrname : DvrString
  IPaddress : DvrString
  username : DvrString
  password : DvrString
  serialnumber : DvrString
  IPClist : List IpcConf
  deriving DecidableEq

/-- `JsonMapDvrInfoMake` -/
def jsonMapDvrInfoMake (p : HKDVRParam) : DvrConf where
  channels := p.HkDvrInfo.wChannel
  port := p.HkDvrInfo.wPort
  Dvrname := p.HkDvrInfo.sDvrName
  IPaddress := p.HkDvrInfo.sDeviceAddress
  username := p.HkDvrInfo.sUserName
  password := p.HkDvrInfo.sPassword
  serialnumber := p.HkDvrInfo.sDvrSerialNumber
  IPClist := ((List.finRange netIpcMaxNum).take p.HkDvrInfo.wChannel).map fun item =>
    { queueid := (p.HkSdkParam item).sQueueID
      channel := (p.HkSdkParam item).sChannel
      devicetype := (p.HkSdkParam item).sDeviceType
      devicename := (p.HkSdkParam item).sDeviceName
      deviceIP := (p.HkSdkParam item).sDeviceAddress }

/-- `JsonMapDvrInfoPares` into `HkDvrListInfo[NET_DVR_MAX_LEN]`, and the search for a serial number in
    it. The array is not initialised: past the items that are stored there is `junk`. -/
def hkDvrListConfigFind (junk : ℕ → DvrString) (serial : DvrString) (conf : List DvrConf) :
    Except Fault ℕ :=
  if conf.length ≤ netDvrMaxLen then
    let number (i : ℕ) := (conf[i]?.map DvrConf.serialnumber).getD (junk i)
    .ok (((List.range netDvrMaxLen).find? fun i => number i = serial).getD netDvrMaxLen)
  else .error .badAccess

/-- What the three operations share: the list is edited at the position that was found. When no list
    is stored, `cJSON_GetObjectItem` follows the null pointer that `ConfigManageGet` returns. -/
def editConf (junk : ℕ → DvrString) (serial : DvrString) (edit : ℕ → List DvrConf → List DvrConf) :
    Option (List DvrConf) → Except Fault (List DvrConf)
  | none => .error .badAccess
  | some conf => (hkDvrListConfigFind junk serial conf).map fun i => edit i conf

/-- `HkDvrListConfigAdd` -/
def hkDvrListConfigAdd (junk : ℕ → DvrString) (p : HKDVRParam) (conf : Option (List DvrConf)) :
    Except Fault (List DvrConf) :=
  editConf junk p.serial (fun i conf =>
    if i ≥ netDvrMaxLen then conf ++ [jsonMapDvrInfoMake p] else conf.set i (jsonMapDvrInfoMake p)) conf

/-- `HkDvrListConfigSet` -/
def hkDvrListConfigSet (junk : ℕ → DvrString) (p : HKDVRParam) (conf : Option (List DvrConf)) :
    Except Fault (List DvrConf) :=
  editConf junk p.serial (fun i conf => conf.set i (jsonMapDvrInfoMake p)) conf

/-- `HkDvrListConfigDel` -/
def hkDvrListConfigDel (junk : ℕ → DvrString) (p : HKDVRParam) (conf : Option (List DvrConf)) :
    Except Fault (List DvrConf) :=
  editConf junk p.serial (fun i conf => conf.eraseIdx i) conf

/-! ## The registry and what it holds -/

/-- A handle in use, with the login it was opened on. A real-play handle stands for the preview and
    its streaming callback. -/
inductive Held where
  | login (lUserID : ℤ)
  | alarm (lHandle : ℤ) (lUserID : ℤ)
  | realPlay (lRealPlayHandle : ℤ) (lUserID : ℤ)
  | queue (queueid : ℤ) (lUserID : ℤ)
  deriving DecidableEq

def Held.lUserID : Held → ℤ
  | login u | alarm _ u | realPlay _ u | queue _ u => u

/-- A preview or a queue. -/
def Held.isStream : Held → Bool
  | .realPlay _ _ | .queue _ _ => true
  | .login _ | .alarm _ _ => false

/-- The lists, the configuration if there is one, the handles in use and the cameras announced to the
    users of the module. -/
structure Registry (ι κ : Type) where
  dvrlistHead : List ι
  deviceListHead : List κ
  Dvrlist : Option (List DvrConf)
  held : List Held
  cameras : List DvrOpt
  deriving DecidableEq

/-- The registry when its lists hold the records themselves. -/
abbrev Records := Registry HkSdkDeviceInfo HKDVRParam

/-- When `HksdkApiInit` has set up the lists, with what is stored from earlier runs of the program. -/
def Registry.init (ι κ : Type) (Dvrlist : Option (List DvrConf)) : Registry ι κ :=
  ⟨[], [], Dvrlist, [], []⟩

/-- A handle is acquired when the call does not fail. -/
def acquired (held : ℤ → Held) (handle : ℤ) : List Held := if handle < 0 then [] else [held handle]

/-! ## `HksdkDeviceAdd` -/

/-- The local variables of `HksdkDeviceAdd`, what it has acquired and whom it has announced. -/
structure AddLocals where
  HkDvrInfo : HKDVRParam
  dvrInfo : HkSdkDeviceInfo
  held : List Held
  cameras : List DvrOpt

/-- `snprintf(sDeviceName, NET_DVR_MAX_LEN, "chn_%d", i+1)` -/
def chnName (i : Fin netIpcMaxNum) : DvrString :=
  snprintf _ (.ofBuffer (printf (ascii "chn_%d") [.int (i + 1)]))

/-- The camera of channel `i`. -/
def channelParam (cfg : IpParaCfg) (queueid : ℤ) (i : Fin netIpcMaxNum) : HkDeviceParam where
  sOnline := cfg.online i
  sDeviceType := deviceTypeEntrance
  sChannel := i + 1
  sQueueID := queueid
  sDeviceName := chnName i
  sDeviceAddress := cfg.struIPDevInfo (cfg.devInfoIndex i)

/-- What a channel leaves in its slots of both records. -/
def AddLocals.setChannel (l : AddLocals) (cfg : IpParaCfg) (i : Fin netIpcMaxNum)
    (channel queueid realPlay : ℤ) : AddLocals where
  HkDvrInfo := { l.HkDvrInfo with
    HkSdkParam := Function.update l.HkDvrInfo.HkSdkParam i (channelParam cfg queueid i) }
  dvrInfo := { l.dvrInfo with
    lChannel := Function.update l.dvrInfo.lChannel i channel
    lqueueId := Function.update l.dvrInfo.lqueueId i queueid
    lRealPlayHandle := Function.update l.dvrInfo.lRealPlayHandle i realPlay }
  held := l.held
  cameras := l.cameras

/-- The channels that are left, from channel to channel; `false` for the `return KEY_FALSE` when no
    queue is created. -/
def addChannels (re : Replies) : List (Fin netIpcMaxNum) → AddLocals → Bool × AddLocals
  | [], l => (true, l)
  | i :: rest, l =>
      if re.IpcamCfg.online i = 0 then
        addChannels re rest (l.setChannel re.IpcamCfg i (-1) (-1) (-1))
      else
        -- a preview that fails is logged only, and its negative handle is kept
        let played := acquired (.realPlay · re.lUserID) (re.lRealPlayHandle i)
        if re.queueid i < 0 then
          (false,
            { l with
              HkDvrInfo := { l.HkDvrInfo with
                HkSdkParam := Function.update l.HkDvrInfo.HkSdkParam i (channelParam re.IpcamCfg 0 i) }
              held := l.held ++ played })
        else
          addChannels re rest
            { l.setChannel re.IpcamCfg i (i + 1) (re.queueid i) (re.lRealPlayHandle i) with
              held := l.held ++ played ++ [.queue (re.queueid i) re.lUserID]
              cameras := l.cameras ++
                [{ wChannel := i + 1
                   wQueueID := re.queueid i
                   sDvrSerialNumber := l.HkDvrInfo.HkDvrInfo.sDvrSerialNumber }] }

/-- `for(i = 0; i < IpcamCfg.dwDChanNum; i++)` -/
def channelsOf (cfg : IpParaCfg) : List (Fin netIpcMaxNum) :=
  (List.finRange netIpcMaxNum).take cfg.dwDChanNum

/-- The records before the channels are filled in. `lhandle` is `listenHandle`, which stays `-1`: the
    alarm channel is in another local variable. -/
def addLocals (devInfo : HKDVRParam) (re : Replies) : AddLocals where
  HkDvrInfo :=
    { HkDvrInfo :=
        { wPort := devInfo.HkDvrInfo.wPort
          wChannel := re.IpcamCfg.dwDChanNum
          wStartDChan := re.IpcamCfg.dwStartDChan
          lUserID := 0
          sUserName := devInfo.HkDvrInfo.sUserName
          sPassword := devInfo.HkDvrInfo.sPassword
          sDeviceAddress := devInfo.HkDvrInfo.sDeviceAddress
          sDvrName := devInfo.HkDvrInfo.sDvrName
          sDvrSerialNumber := re.sSerialNumber
          IWorkersFPID := re.workersFDID
          ICustomerFPID := re.customerFDID
          wChannel_le := re.IpcamCfg.dwDChanNum_le }
      HkSdkParam := fun _ => .zero }
  dvrInfo := { HkSdkDeviceInfo.zero with
    lUserID := re.lUserID
    lhandle := -1
    lDvrSerialNumber := re.sSerialNumber }
  held := .login re.lUserID :: acquired (.alarm · re.lUserID) re.lHandle
  cameras := []

/-- How `HksdkDeviceAdd` ends: without touching the lists, or by linking its records. -/
inductive AddEnd where
  | returns (code : ℤ) (held : List Held) (cameras : List DvrOpt)
  | registers (l : AddLocals)

/-- `HksdkDeviceAdd` up to the lists; `found` is the result of the search for the NVR. -/
def hksdkDeviceAddEnd (found : Bool) (devInfo : HKDVRParam) (re : Replies) : AddEnd :=
  if re.lUserID < 0 then .returns keyFalse [] []
  else if found then .returns keyTrue (addLocals devInfo re).held []
  else
    match addChannels re (channelsOf re.IpcamCfg) (addLocals devInfo re) with
    | (false, l) => .returns keyFalse l.held l.cameras
    | (true, l) => .registers l

section

variable {ι κ : Type} (info : ι → HkSdkDeviceInfo) (param : κ → HKDVRParam)

/-- The NVR is in `deviceListHead`. -/
def Registry.isAdded (reg : Registry ι κ) (devInfo : HKDVRParam) : Bool :=
  (lookup (fun k => (param k).serial) devInfo.serial reg.deviceListHead).isSome

/-- `HksdkDeviceAdd`; `link` gives the entries for the two records. -/
def hksdkDeviceAdd (link : AddLocals → ι × κ) (reg : Registry ι κ) (devInfo : Option HKDVRParam)
    (re : Replies) (junk : ℕ → DvrString) : Except Fault (ℤ × Registry ι κ) :=
  match devInfo with
  | none => .ok (keyFalse, reg)
  | some devInfo =>
      match hksdkDeviceAddEnd (reg.isAdded param devInfo) devInfo re with
      | .returns code held cameras =>
          .ok (code, { reg with held := reg.held ++ held, cameras := reg.cameras ++ cameras })
      | .registers l =>
          (hkDvrListConfigAdd junk l.HkDvrInfo reg.Dvrlist).map fun Dvrlist =>
            (keyTrue,
              { dvrlistHead := reg.dvrlistHead ++ [(link l).1]
                deviceListHead := reg.deviceListHead ++ [(link l).2]
                Dvrlist := some Dvrlist
                held := reg.held ++ l.held
                cameras := reg.cameras ++ l.cameras })

/-! ## `HksdkDeviceDel` -/

/-- `NET_DVR_StopRealPlay`, `disdroyQueneFromMediaQuenecb` and `NET_DVR_Logout` of what a record
    names. `NET_DVR_StopListen_V30` gets `lhandle` and closes no alarm channel. -/
def HkSdkDeviceInfo.releases (d : HkSdkDeviceInfo) : Held → Bool
  | .login u => u = d.lUserID
  | .alarm _ _ => false
  | .realPlay h _ => 0 ≤ h ∧ ∃ i, d.lRealPlayHandle i = h
  | .queue q _ => 0 ≤ q ∧ ∃ i, d.lqueueId i = q

/-- The cameras `HksdkDelcameraFunc` is called for. -/
def HkSdkDeviceInfo.withdraws (d : HkSdkDeviceInfo) (c : DvrOpt) : Bool :=
  c.sDvrSerialNumber = d.lDvrSerialNumber ∧
    ∃ i, 0 ≤ d.lqueueId i ∧ d.lChannel i = c.wChannel ∧ d.lqueueId i = c.wQueueID

/-- `HksdkDeviceDel` -/
def hksdkDeviceDel (reg : Registry ι κ) (devInfo : Option HKDVRParam) (junk : ℕ → DvrString) :
    Except Fault (ℤ × Registry ι κ) :=
  match devInfo with
  | none => .ok (keyFalse, reg)
  | some devInfo =>
      let paramKey k := (param k).serial
      let infoKey e := (info e).lDvrSerialNumber
      if reg.isAdded param devInfo then
        let reg := { reg with
          deviceListHead := eraseFirst paramKey devInfo.serial reg.deviceListHead }
        match lookup infoKey devInfo.serial reg.dvrlistHead with
        | none => .ok (keyFalse, reg)
        | some e =>
            (hkDvrListConfigDel junk devInfo reg.Dvrlist).map fun Dvrlist =>
              (keyTrue,
                { reg with
                  dvrlistHead := eraseFirst infoKey devInfo.serial reg.dvrlistHead
                  Dvrlist := some Dvrlist
                  held := reg.held.filter fun h => !(info e).releases h
                  cameras := reg.cameras.filter fun c => !(info e).withdraws c })
      else .ok (keyFalse, reg)

/-! ## `HksdkDeviceListGet` and `HksdkDeviceListSet` -/

/-- `HksdkDeviceListGet`: the records copied out. -/
def hksdkDeviceListGet (reg : Registry ι κ) : List HKDVRParam := reg.deviceListHead.map param

/-- What `HksdkDeviceListSet` makes of the record `cur`. -/
def HKDVRParam.set (cur dvrParam : HKDVRParam) : HKDVRParam where
  HkDvrInfo := { cur.HkDvrInfo with
    wPort := dvrParam.HkDvrInfo.wPort
    wChannel := dvrParam.HkDvrInfo.wChannel
    sDeviceAddress := dvrParam.HkDvrInfo.sDeviceAddress
    sUserName := dvrParam.HkDvrInfo.sUserName
    sPassword := dvrParam.HkDvrInfo.sPassword
    sDvrSerialNumber := dvrParam.HkDvrInfo.sDvrSerialNumber
    sDvrName := dvrParam.HkDvrInfo.sDvrName
    wChannel_le := dvrParam.HkDvrInfo.wChannel_le }
  HkSdkParam i :=
    if i < dvrParam.HkDvrInfo.wChannel ∧
        (cur.HkSdkParam i).sChannel = (dvrParam.HkSdkParam i).sChannel then
      dvrParam.HkSdkParam i
    else cur.HkSdkParam i

/-- `HksdkDeviceListSet`: with the return code and the configuration, the entry it writes through and
    what it writes. -/
def hksdkDeviceListSet (reg : Registry ι κ) (dvrParam : HKDVRParam) (junk : ℕ → DvrString) :
    Except Fault (ℤ × Registry ι κ × Option (κ × HKDVRParam)) :=
  match lookup (fun k => (param k).serial) dvrParam.serial reg.deviceListHead with
  | none => .ok (keyFalse, reg, none)
  | some k =>
      let new := (param k).set dvrParam
      (hkDvrListConfigSet junk new reg.Dvrlist).map fun Dvrlist =>
        (keyTrue, { reg with Dvrlist := some Dvrlist }, some (k, new))

end

end SmartPlat.HkSdkManage
