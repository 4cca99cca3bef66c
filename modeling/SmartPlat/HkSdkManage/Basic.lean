import SmartPlat.CString
import Mathlib.Data.Fintype.Basic
import Mathlib.Logic.Function.Basic

set_option autoImplicit false

/-! # Records of the network video recorders (`Include/hkManage.h`, `Modules/HkSdkManage`)

An NVR that is added has two records: an `HkSdkDeviceInfo` with the handles that are open on it, and
an `HKDVRParam` with what clients see of it, of which a part is stored in the configuration. -/

namespace SmartPlat.HkSdkManage

/-- `NET_IPC_MAX_NUM` -/
abbrev netIpcMaxNum : ℕ := 64

theorem one_le_netIpcMaxNum : 1 ≤ netIpcMaxNum := by decide

instance instNeZeroNetIpcMaxNum : NeZero netIpcMaxNum := ⟨by decide⟩

/-- `NET_NVR_MAX_NUM` -/
abbrev netNvrMaxNum : ℕ := 48

/-- `NET_DVR_MAX_LEN` -/
abbrev netDvrMaxLen : ℕ := 64

/-- `char field[NET_DVR_MAX_LEN]` -/
abbrev DvrString := CharArray (netDvrMaxLen - 1)

/-- `char field[NET_FPID_NUM]` -/
abbrev FpidString := CharArray 127

/-- `DEVICE_TYPE_Entrance` of `Enum_DeviceType` -/
def deviceTypeEntrance : ℤ := 2

/-- `HkDeviceParam_T`: a camera of an NVR. -/
structure HkDeviceParam where
  sOnline : ℤ
  sDeviceType : ℤ
  sChannel : ℤ
  sQueueID : ℤ
  sDeviceName : DvrString
  sDeviceAddress : DvrString
  deriving DecidableEq

/-- `HkDeviceInfo_T`: `wChannel` counts the cameras in an array of `NET_IPC_MAX_NUM`. -/
structure HkDeviceInfo where
  wPort : ℤ
  wChannel : ℕ
  wStartDChan : ℤ
  lUserID : ℤ
  sUserName : DvrString
  sPassword : DvrString
  sDeviceAddress : DvrString
  sDvrName : DvrString
  sDvrSerialNumber : DvrString
  IWorkersFPID : FpidString
  ICustomerFPID : FpidString
  wChannel_le : wChannel ≤ netIpcMaxNum
  deriving DecidableEq

/-- `HKDVRParam_T` -/
structure HKDVRParam where
  HkDvrInfo : HkDeviceInfo
  HkSdkParam : Fin netIpcMaxNum → HkDeviceParam
  deriving DecidableEq

/-- `HkSdk_DeviceInfo`: the handles of an NVR, one slot of the arrays for each camera. -/
structure HkSdkDeviceInfo where
  lUserID : ℤ
  lhandle : ℤ
  lChannel : Fin netIpcMaxNum → ℤ
  lqueueId : Fin netIpcMaxNum → ℤ
  lRealPlayHandle : Fin netIpcMaxNum → ℤ
  lDvrSerialNumber : DvrString
  deriving DecidableEq

/-- `DvrOpt_T`: the camera a callback is about. -/
structure DvrOpt where
  wChannel : ℤ
  wQueueID : ℤ
  sDvrSerialNumber : DvrString
  deriving DecidableEq

/-! ## `= {0}` -/

/-- A string field that is all zero. -/
def emptyArray (n : ℕ) : CharArray n := ⟨⟨[], List.not_mem_nil⟩, Nat.zero_le n⟩

def HkDeviceParam.zero : HkDeviceParam := ⟨0, 0, 0, 0, emptyArray _, emptyArray _⟩

def HkDeviceInfo.zero : HkDeviceInfo :=
  ⟨0, 0, 0, 0, emptyArray _, emptyArray _, emptyArray _, emptyArray _, emptyArray _, emptyArray _,
    emptyArray _, Nat.zero_le _⟩

def HKDVRParam.zero : HKDVRParam := ⟨.zero, fun _ => .zero⟩

def HkSdkDeviceInfo.zero : HkSdkDeviceInfo := ⟨0, 0, fun _ => 0, fun _ => 0, fun _ => 0, emptyArray _⟩

/-- `HkDvrInfo.sDvrSerialNumber`, by which an NVR is looked up. -/
abbrev HKDVRParam.serial (p : HKDVRParam) : DvrString := p.HkDvrInfo.sDvrSerialNumber

/-! ## What the SDK and the media queues answer -/

/-- `struStreamMode[k].uGetStream.struChanInfo` -/
structure ChanInfo where
  byEnable : UInt8
  byIPID : UInt8
  byIPIDHigh : UInt8

/-- `NET_DVR_IPPARACFG_V40`. Its two arrays are read at an index that comes from the device: an
    index outside them reads whatever is there. -/
structure IpParaCfg where
  dwDChanNum : ℕ
  dwStartDChan : ℤ
  struStreamMode : ℤ → ChanInfo
  struIPDevInfo : ℤ → DvrString
  dwDChanNum_le : dwDChanNum ≤ netIpcMaxNum

/-- `iDevInfoIndex` of channel `i` -/
def IpParaCfg.devInfoIndex (cfg : IpParaCfg) (i : Fin netIpcMaxNum) : ℤ :=
  (cfg.struStreamMode (i : ℕ)).byIPIDHigh.toNat * 256 + (cfg.struStreamMode (i : ℕ)).byIPID.toNat - 1

/-- `sOnline` of channel `i` -/
def IpParaCfg.online (cfg : IpParaCfg) (i : Fin netIpcMaxNum) : ℤ :=
  (cfg.struStreamMode (cfg.devInfoIndex i)).byEnable.toNat

/-- The answers to the calls of one `HksdkDeviceAdd`: a handle, or a negative value for a failure. -/
structure Replies where
  /-- `NET_DVR_Login_V40` -/
  lUserID : ℤ
  /-- `struDeviceInfoV40.struDeviceV30.sSerialNumber` -/
  sSerialNumber : DvrString
  /-- `NET_DVR_SetupAlarmChan_V41` -/
  lHandle : ℤ
  /-- `GetFDIDFromNVR` -/
  customerFDID : FpidString
  workersFDID : FpidString
  /-- `NET_DVR_GetDVRConfig` -/
  IpcamCfg : IpParaCfg
  /-- `NET_DVR_RealPlay_V40` of each channel -/
  lRealPlayHandle : Fin netIpcMaxNum → ℤ
  /-- `createQueneFromMediaQuenecb` of each channel -/
  queueid : Fin netIpcMaxNum → ℤ

end SmartPlat.HkSdkManage
