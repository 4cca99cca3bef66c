import Mathlib.Data.Finset.Insert
import SmartPlat.CJson
import SmartPlat.Common
import SmartPlat.HkSdkManage.Devices
import SmartPlat.Lib.Transition

set_option autoImplicit false

/-! # Where the records and the alarm levels are

`HandleManageAddHandle` links the pointer it is given. `HksdkDeviceAdd` gives it the addresses of its
local variables `dvrInfo` and `HkDvrInfo`, which are released when it returns. -/

namespace SmartPlat.HkSdkManage

open SmartPlat.Lib

abbrev Address := ℕ

/-- The storage of the program: which addresses are allocated beyond the running call, and what is
    read at an address as a record of either type. -/
structure Storage where
  live : Finset Address
  deviceInfo : Address → HkSdkDeviceInfo
  dvrParam : Address → HKDVRParam

/-- Where a call has its `dvrInfo` and its `HkDvrInfo`. -/
structure Frame where
  dvrInfo : Address
  HkDvrInfo : Address

/-- Local variables are fresh storage. -/
def Frame.Fits (f : Frame) (μ : Storage) : Prop :=
  f.dvrInfo ≠ f.HkDvrInfo ∧ f.dvrInfo ∉ μ.live ∧ f.HkDvrInfo ∉ μ.live

instance (f : Frame) (μ : Storage) : Decidable (f.Fits μ) :=
  inferInstanceAs (Decidable (_ ∧ _ ∧ _))

/-- The local variables take these values. What is allocated beyond the call stays. -/
def Storage.setLocals (μ : Storage) (f : Frame) (d : HkSdkDeviceInfo) (p : HKDVRParam) : Storage :=
  { μ with
    deviceInfo := Function.update μ.deviceInfo f.dvrInfo d
    dvrParam := Function.update μ.dvrParam f.HkDvrInfo p }

/-- When `HksdkDeviceAdd` searches the list its variables are zero. -/
def Storage.zeroed (μ : Storage) (f : Frame) : Storage := μ.setLocals f .zero .zero

/-- The local variables of `HksdkDeviceAdd` when it returns. `dvrInfo` is not initialised before the
    login; `lUserID` and `lhandle` are filled in after the channels. -/
def addEndLocals (dvrInfo : HkSdkDeviceInfo) (found : HKDVRParam → Bool) (devInfo : Option HKDVRParam)
    (re : Replies) : HkSdkDeviceInfo × HKDVRParam :=
  match devInfo with
  | none => (dvrInfo, .zero)
  | some devInfo =>
      if re.lUserID < 0 then (dvrInfo, .zero)
      else if found devInfo then
        ({ HkSdkDeviceInfo.zero with lDvrSerialNumber := re.sSerialNumber }, .zero)
      else
        match addChannels re (channelsOf re.IpcamCfg) (addLocals devInfo re) with
        | (false, l) => ({ l.dvrInfo with lUserID := 0, lhandle := 0 }, l.HkDvrInfo)
        | (true, l) => (l.dvrInfo, l.HkDvrInfo)

/-- The storage when `HksdkDeviceAdd` has returned. -/
def Storage.returned (μ : Storage) (f : Frame) (found : HKDVRParam → Bool)
    (devInfo : Option HKDVRParam) (re : Replies) : Storage :=
  let locals := addEndLocals (μ.deviceInfo f.dvrInfo) found devInfo re
  μ.setLocals f locals.1 locals.2

/-- What other parts of the program do to storage: they do not touch the records at these addresses, as far
    as they are allocated. -/
def Storage.Spares (μ μ' : Storage) (reached : List Address) : Prop :=
  ∀ a ∈ reached, a ∈ μ.live →
    a ∈ μ'.live ∧ μ'.deviceInfo a = μ.deviceInfo a ∧ μ'.dvrParam a = μ.dvrParam a

instance (μ μ' : Storage) (reached : List Address) : Decidable (μ.Spares μ' reached) :=
  inferInstanceAs (Decidable (∀ a ∈ reached, _ → _))

/-- The module beside the other parts of the program. `asAdded` is what the registry is to hold: the
    same calls on lists of records. -/
structure Program where
  μ : Storage
  reg : Registry Address Address
  asAdded : Registry HkSdkDeviceInfo HKDVRParam

/-- A call of the module, with the answers it gets, or what the rest of the program does. -/
inductive Call where
  | deviceAdd (devInfo : Option HKDVRParam) (re : Replies) (junk : ℕ → DvrString) (frame : Frame)
  | deviceDel (devInfo : Option HKDVRParam) (junk : ℕ → DvrString)
  | deviceListSet (dvrParam : HKDVRParam) (junk : ℕ → DvrString)
  | deviceListGet
  /-- Other calls leave any storage behind that spares the records the lists reach. -/
  | other (μ : Storage)

/-! ## The calls on records -/

/-- `HksdkDeviceListSet` on records: the first one with the serial number is changed. -/
def Registry.setRecord (reg : Registry HkSdkDeviceInfo HKDVRParam) (dvrParam : HKDVRParam) :
    Registry HkSdkDeviceInfo HKDVRParam :=
  { reg with
    deviceListHead :=
      modifyFirst HKDVRParam.serial dvrParam.serial (·.set dvrParam) reg.deviceListHead }

/-- What a call adds, removes or sets. -/
def specStep (reg : Registry HkSdkDeviceInfo HKDVRParam) :
    Call → Registry HkSdkDeviceInfo HKDVRParam
  | .deviceAdd devInfo re junk _ =>
      match hksdkDeviceAdd id (fun l => (l.dvrInfo, l.HkDvrInfo)) reg devInfo re junk with
      | .ok (_, reg') => reg'
      | .error _ => reg
  | .deviceDel devInfo junk =>
      match hksdkDeviceDel id id reg devInfo junk with
      | .ok (_, reg') => reg'
      | .error _ => reg
  | .deviceListSet dvrParam _ => reg.setRecord dvrParam
  | .deviceListGet => reg
  | .other _ => reg

/-! ## The calls on pointers -/

/-- The result of a call that returns. -/
def Program.after {α : Type} (s : Program) (c : Call) (μ : Storage)
    (r : Except Fault (α × Registry Address Address)) : Option Program :=
  match r with
  | .ok (_, reg) => some { μ, reg, asAdded := specStep s.asAdded c }
  | .error _ => none

/-- One call. -/
def stepFn (s : Program) (c : Call) : Option Program :=
  match c with
  | .deviceAdd devInfo re junk f =>
      if f.Fits s.μ then
        let found (d : HKDVRParam) := s.reg.isAdded (s.μ.zeroed f).dvrParam d
        s.after c (s.μ.returned f found devInfo re)
          (hksdkDeviceAdd (s.μ.zeroed f).dvrParam (fun _ => (f.dvrInfo, f.HkDvrInfo)) s.reg devInfo re
            junk)
      else none
  | .deviceDel devInfo junk =>
      s.after c s.μ (hksdkDeviceDel s.μ.deviceInfo s.μ.dvrParam s.reg devInfo junk)
  | .deviceListSet dvrParam junk =>
      match hksdkDeviceListSet s.μ.dvrParam s.reg dvrParam junk with
      | .ok (code, reg, some (a, new)) =>
          s.after c { s.μ with dvrParam := Function.update s.μ.dvrParam a new } (.ok (code, reg))
      | .ok (code, reg, none) => s.after c s.μ (.ok (code, reg))
      | .error e => s.after (α := ℤ) c s.μ (.error e)
  | .deviceListGet => s.after c s.μ (.ok (hksdkDeviceListGet s.μ.dvrParam s.reg, s.reg))
  | .other μ =>
      if s.μ.Spares μ (s.reg.dvrlistHead ++ s.reg.deviceListHead) then
        s.after (α := Unit) c μ (.ok ((), s.reg))
      else none

/-- The steps of the program. -/
def step (s : Program) (c : Call) (s' : Program) : Prop := stepFn s c = some s'

/-- The program when the lists have been set up, with any storage and any configuration. -/
def Program.init (μ : Storage) (Dvrlist : Option (List DvrConf)) : Program :=
  ⟨μ, .init _ _ Dvrlist, .init _ _ Dvrlist⟩

/-- The registry owns its records: what the lists reach is allocated, no two entries share storage,
    and reading it back gives the records as they were added or last set. -/
structure Program.Owned (s : Program) : Prop where
  live : ∀ a ∈ s.reg.dvrlistHead ++ s.reg.deviceListHead, a ∈ s.μ.live
  unshared : (s.reg.dvrlistHead ++ s.reg.deviceListHead).Nodup
  online : s.reg.dvrlistHead.map s.μ.deviceInfo = s.asAdded.dvrlistHead
  params : s.reg.deviceListHead.map s.μ.dvrParam = s.asAdded.deviceListHead

/-! ## The levels of the alarms (`Modules/HkSdkManage/hklistconf.c`, `hkManage.c`)

They are one item of the configuration. `ConfigManageGet` gives a copy of it, if it is there, and
`ConfigManageSet` puts another in its place. -/

/-- `DeviceAlarmParam_T` -/
structure DeviceAlarmParam where
  smokeLev : ℤ
  hightempLev : ℤ
  deriving DecidableEq, Repr

/-- `JsonMapHkDeviceAlarmInfoMake` -/
def jsonMapHkDeviceAlarmInfoMake (info : DeviceAlarmParam) : CJson :=
  .object [("smoke", .number info.smokeLev), ("hightemp", .number info.hightempLev)]

/-- `JsonMapDeviceAlarmInfoPares` -/
def jsonMapDeviceAlarmInfoPares (conf : CJson) : DeviceAlarmParam where
  smokeLev := conf.getObjectItemValueInt (ascii "smoke")
  hightempLev := conf.getObjectItemValueInt (ascii "hightemp")

/-- The item that `HkDeviceAlarmConfigDefault` stores. -/
def hkDeviceAlarmConfigDefault : CJson := jsonMapHkDeviceAlarmInfoMake ⟨1, 1⟩

/-- `HkDeviceAlarmConfigGet`: what it fills in, and the item that is stored afterwards. -/
def hkDeviceAlarmConfigGet (conf : Option CJson) : DeviceAlarmParam × Option CJson :=
  let Alarm := conf.getD hkDeviceAlarmConfigDefault
  (jsonMapDeviceAlarmInfoPares Alarm, some Alarm)

/-- `HkDeviceAlarmConfigSet`: members are replaced in the item that is stored. -/
def hkDeviceAlarmConfigSet (info : DeviceAlarmParam) (conf : Option CJson) : ℤ × Option CJson :=
  (keyFalse, conf.map fun Alarm =>
    (Alarm.replaceItemInObject (ascii "smoke") (.number info.smokeLev)).replaceItemInObject
      (ascii "hightemp") (.number info.hightempLev))

/-- `HKsdkDeviceAlarmGet` -/
def hKsdkDeviceAlarmGet (conf : Option CJson) : ℤ × DeviceAlarmParam × Option CJson :=
  (keyTrue, hkDeviceAlarmConfigGet conf)

/-- `HKsdkDeviceAlarmSet`, which does not look at the result. -/
def hKsdkDeviceAlarmSet (info : DeviceAlarmParam) (conf : Option CJson) : ℤ × Option CJson :=
  (keyTrue, (hkDeviceAlarmConfigSet info conf).2)

/-! ## What is read -/

/-- The levels that the next reader gets. -/
def readLevels (conf : Option CJson) : DeviceAlarmParam := (hKsdkDeviceAlarmGet conf).2.1

variable {info : DeviceAlarmParam} {conf : Option CJson}

@[simp]
theorem jsonMapDeviceAlarmInfoPares_make :
    jsonMapDeviceAlarmInfoPares (jsonMapHkDeviceAlarmInfoMake info) = info := by
  have hsmoke : (jsonMapHkDeviceAlarmInfoMake info).getObjectItemValueInt (ascii "smoke") =
      info.smokeLev :=
    CJson.getObjectItemValueInt_object ["smoke", "hightemp"] 0 rfl (by decide) rfl
  have hhightemp : (jsonMapHkDeviceAlarmInfoMake info).getObjectItemValueInt (ascii "hightemp") =
      info.hightempLev :=
    CJson.getObjectItemValueInt_object ["smoke", "hightemp"] 1 rfl (by decide) rfl
  exact congrArg₂ DeviceAlarmParam.mk hsmoke hhightemp

@[simp]
theorem readLevels_none : readLevels none = ⟨1, 1⟩ := jsonMapDeviceAlarmInfoPares_make

/-- Reading stores nothing but what is read. -/
@[simp]
theorem readLevels_get : readLevels (hKsdkDeviceAlarmGet conf).2.2 = readLevels conf := rfl

/-- A setting finds what it is to replace: both members of an item that is stored. Where it does not, it has to
    ask for what is read anyway. -/
def Settable (conf : Option CJson) (info : DeviceAlarmParam) : Prop :=
  match conf with
  | none => info = ⟨1, 1⟩
  | some Alarm =>
      ((Alarm.getObjectItem (ascii "smoke")).isSome ∨ info.smokeLev = -1) ∧
        ((Alarm.getObjectItem (ascii "hightemp")).isSome ∨ info.hightempLev = -1)

theorem replaced_iff {b : Prop} [Decidable b] {n : ℤ} : (if b then n else -1) = n ↔ b ∨ n = -1 := by
  split
  · next hb => simp [hb]
  · next hb => simp [hb, eq_comm]

theorem readLevels_set {Alarm : CJson} :
    readLevels (hKsdkDeviceAlarmSet info (some Alarm)).2 =
      ⟨if (Alarm.getObjectItem (ascii "smoke")).isSome then info.smokeLev else -1,
        if (Alarm.getObjectItem (ascii "hightemp")).isSome then info.hightempLev else -1⟩ := by
  have hsmoke : 0 ∉ ascii "smoke" := by decide
  have hhightemp : 0 ∉ ascii "hightemp" := by decide
  have hother : strcasecmp (ascii "smoke") (ascii "hightemp") = false := by decide
  have hother' : strcasecmp (ascii "hightemp") (ascii "smoke") = false := by decide
  refine congrArg₂ DeviceAlarmParam.mk ?_ ?_
  · -- the second replacement leaves the member of the first
    show CJson.getObjectItemValueInt (.replaceItemInObject (.replaceItemInObject Alarm _ _) _ _) _ = _
    rw [CJson.getObjectItemValueInt_replaceItemInObject_other hhightemp hother',
      CJson.getObjectItemValueInt_replaceItemInObject hsmoke]
    rfl
  · show CJson.getObjectItemValueInt (.replaceItemInObject (.replaceItemInObject Alarm _ _) _ _) _ = _
    rw [CJson.getObjectItemValueInt_replaceItemInObject hhightemp,
      CJson.getObjectItem_replaceItemInObject_other hsmoke hother]
    rfl

theorem readLevels_set_iff : readLevels (hKsdkDeviceAlarmSet info conf).2 = info ↔ Settable conf info := by
  obtain ⟨smokeLev, hightempLev⟩ := info
  cases conf with
  | none => exact eq_comm
  | some Alarm =>
      rw [readLevels_set, DeviceAlarmParam.mk.injEq, replaced_iff, replaced_iff]
      rfl

end SmartPlat.HkSdkManage
