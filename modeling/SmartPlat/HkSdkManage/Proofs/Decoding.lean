import SmartPlat.HkSdkManage.ListConf
import SmartPlat.HkSdkManage.Proofs.Resources

set_option autoImplicit false

/-! # Decoding the stored list of NVRs

What the accessors read of an item is stated apart from how the item was built: the two functions of
`jsonmap.c` that build the item of an NVR order its members differently. -/

namespace SmartPlat.HkSdkManage

open SmartPlat.Lib

/-! ## What the accessors read -/

/-- The accessors read the camera `c` in an item. -/
structure IpcItem (item : CJson) (c : IpcConf) : Prop where
  queueid : item.getObjectItemValueInt (ascii "queueid") = c.queueid
  channel : item.getObjectItemValueInt (ascii "channel") = c.channel
  devicetype : item.getObjectItemValueInt (ascii "devicetype") = c.devicetype
  devicename : item.getObjectItemValueString _ (ascii "devicename") = some c.devicename
  deviceIP : item.getObjectItemValueString _ (ascii "deviceIP") = some c.deviceIP

/-- The accessors read the NVR `c` in an item. -/
structure DvrItem (item : CJson) (c : DvrConf) : Prop where
  channels : item.getObjectItemValueInt (ascii "channels") = c.channels
  port : item.getObjectItemValueInt (ascii "port") = c.port
  Dvrname : item.getObjectItemValueString _ (ascii "Dvrname") = some c.Dvrname
  IPaddress : item.getObjectItemValueString _ (ascii "IPaddress") = some c.IPaddress
  username : item.getObjectItemValueString _ (ascii "username") = some c.username
  password : item.getObjectItemValueString _ (ascii "password") = some c.password
  serialnumber : item.getObjectItemValueString _ (ascii "serialnumber") = some c.serialnumber
  IPClist : ∃ a, item.getObjectItem (ascii "IPClist") = some a ∧
    List.Forall₂ IpcItem a.arrayItems c.IPClist
  IPClist_le : c.IPClist.length ≤ netIpcMaxNum

/-- A stored item is the list `l`. -/
def Represents (conf : CJson) (l : List DvrConf) : Prop :=
  ∃ a, conf.getObjectItem (ascii "Dvrlist") = some a ∧ List.Forall₂ DvrItem a.arrayItems l

/-- A slot says what the record `c` says. -/
structure DvrSlot.Holds (slot : DvrSlot) (c : DvrConf) : Prop where
  wPort : slot.wPort = c.port
  wChannel : slot.wChannel = c.channels
  sDvrName : slot.sDvrName = c.Dvrname
  sDeviceAddress : slot.sDeviceAddress = c.IPaddress
  sUserName : slot.sUserName = c.username
  sPassword : slot.sPassword = c.password
  sDvrSerialNumber : slot.sDvrSerialNumber = c.serialnumber
  HkSdkParam : ∀ j (hj : j < c.IPClist.length), slot.HkSdkParam j = c.IPClist[j]

theorem readString_eq {item : CJson} {name : String} {s field : DvrString}
    (h : item.getObjectItemValueString _ (ascii name) = some s) : readString item name field = s := by
  rw [readString, h, Option.getD_some]

/-! ## Arrays -/

section

variable {α β : Type} {size : ℕ} {decode : CJson → α → Except Fault α} {P : CJson → β → Prop}
  {Q : α → β → Prop} {items : List CJson} {l : List β}

/-- Items that fit the array are decoded one after the other, and the other slots stay as they are. -/
theorem decodeItems_ok
    (hdecode : ∀ item b, P item b → ∀ slot, ∃ slot', decode item slot = .ok slot' ∧ Q slot' b)
    (h : List.Forall₂ P items l) : ∀ {i : ℕ}, i + l.length ≤ size → ∀ slots : ℕ → α,
      ∃ slots', decodeItems size decode i items slots = .ok slots' ∧
        (∀ j (hj : j < l.length), Q (slots' (i + j)) l[j]) ∧
        ∀ j, j < i ∨ i + l.length ≤ j → slots' j = slots j := by
  induction h with
  | nil => exact fun _ slots => ⟨slots, rfl, fun j hj => absurd hj j.not_lt_zero, fun _ _ => rfl⟩
  | @cons item b items l hitem _ ih =>
      intro i hsize slots
      rw [List.length_cons] at hsize
      obtain ⟨slot, hslot, hQ⟩ := hdecode item b hitem (slots i)
      obtain ⟨slots', hrest, hin, hout⟩ :=
        ih (show i + 1 + l.length ≤ size by omega) (Function.update slots i slot)
      refine ⟨slots', ?_, fun j hj => ?_, fun j hj => ?_⟩
      · rw [decodeItems, if_pos (by omega), hslot]
        exact hrest
      · cases j with
        | zero =>
            have hkept := hout i (Or.inl i.lt_succ_self)
            rw [Function.update_self] at hkept
            rw [Nat.add_zero, hkept]
            exact hQ
        | succ j =>
            have hnext := hin j (by simpa using hj)
            rwa [show i + 1 + j = i + (j + 1) by omega] at hnext
      · rw [List.length_cons] at hj
        rw [hout j (by omega), Function.update_of_ne (by omega)]

/-- Items that do not fit are decoded past the end. -/
theorem decodeItems_error
    (hdecode : ∀ item b, P item b → ∀ slot, ∃ slot', decode item slot = .ok slot' ∧ Q slot' b)
    (h : List.Forall₂ P items l) : ∀ {i : ℕ}, i ≤ size → size < i + l.length →
      ∀ slots : ℕ → α, decodeItems size decode i items slots = .error .badAccess := by
  induction h with
  | nil =>
      intro i hi hsize
      rw [List.length_nil] at hsize
      omega
  | @cons item b items l hitem _ ih =>
      intro i hi hsize slots
      rw [List.length_cons] at hsize
      rw [decodeItems]
      split
      · next hlt =>
          obtain ⟨slot, hslot, -⟩ := hdecode item b hitem (slots i)
          rw [hslot]
          exact ih hlt (by omega) _
      · rfl

end

/-! ## NVRs -/

theorem decodeIpc_holds (item : CJson) (c : IpcConf) (h : IpcItem item c) (slot : IpcConf) :
    ∃ slot', Except.ok (decodeIpc item slot) = (Except.ok slot' : Except Fault IpcConf) ∧
      slot' = c := by
  refine ⟨_, rfl, ?_⟩
  rw [decodeIpc, h.queueid, h.channel, h.devicetype, readString_eq h.devicename,
    readString_eq h.deviceIP]

theorem decodeDvr_holds (item : CJson) (c : DvrConf) (h : DvrItem item c) (slot : DvrSlot) :
    ∃ slot', decodeDvr item slot = .ok slot' ∧ slot'.Holds c := by
  obtain ⟨a, ha, hitems⟩ := h.IPClist
  obtain ⟨cameras, hcameras, hin, -⟩ := decodeItems_ok decodeIpc_holds hitems
    (show 0 + c.IPClist.length ≤ netIpcMaxNum by rw [Nat.zero_add]; exact h.IPClist_le)
    slot.HkSdkParam
  rw [decodeDvr, ha]
  simp only [hcameras, Except.map]
  refine ⟨_, rfl, h.port, h.channels, readString_eq h.Dvrname, readString_eq h.IPaddress,
    readString_eq h.username, readString_eq h.password, readString_eq h.serialnumber, fun j hj => ?_⟩
  rw [← hin j hj, Nat.zero_add]

/-- The array gets the records of the list and keeps what it holds past them. -/
structure Decoded (stack slots : ℕ → DvrSlot) (l : List DvrConf) : Prop where
  inside : ∀ i (hi : i < l.length), (slots i).Holds l[i]
  outside : ∀ i, l.length ≤ i → slots i = stack i

/-- The stored item is read back as the list, whatever the array holds before. -/
def DecodesTo (conf : CJson) (l : List DvrConf) : Prop :=
  ∀ stack, ∃ slots, jsonMapDvrInfoPares (some conf) stack = .ok (keyTrue, slots) ∧
    Decoded stack slots l

theorem Represents.decodesTo {conf : CJson} {l : List DvrConf} (h : Represents conf l)
    (hlength : l.length ≤ netDvrMaxLen) : DecodesTo conf l := by
  intro stack
  obtain ⟨a, ha, hitems⟩ := h
  obtain ⟨slots, hslots, hin, hout⟩ := decodeItems_ok decodeDvr_holds hitems
    (show 0 + l.length ≤ netDvrMaxLen by rwa [Nat.zero_add]) stack
  refine ⟨slots, ?_, fun i hi => ?_, fun i hi => hout i (by omega)⟩
  · rw [jsonMapDvrInfoPares, Option.bind_some, ha]
    simp only [hslots, Except.map]
  · have hslot := hin i hi
    rwa [Nat.zero_add] at hslot

theorem Represents.pares_error {conf : CJson} {l : List DvrConf} (h : Represents conf l)
    (hlength : netDvrMaxLen < l.length) (stack : ℕ → DvrSlot) :
    jsonMapDvrInfoPares (some conf) stack = .error .badAccess := by
  obtain ⟨a, ha, hitems⟩ := h
  have herror := decodeItems_error decodeDvr_holds hitems (Nat.zero_le netDvrMaxLen) (by omega) stack
  rw [jsonMapDvrInfoPares, Option.bind_some, ha]
  simp only [herror, Except.map]

/-! ## What is built -/

theorem ipcItem_toJson (c : IpcConf) : IpcItem c.toJson c :=
  let names := ["queueid", "channel", "devicetype", "devicename", "deviceIP"]
  { queueid := CJson.getObjectItemValueInt_object names 0 rfl (by decide) rfl
    channel := CJson.getObjectItemValueInt_object names 1 rfl (by decide) rfl
    devicetype := CJson.getObjectItemValueInt_object names 2 rfl (by decide) rfl
    devicename := CJson.getObjectItemValueString_object names 3 rfl (by decide) rfl
    deviceIP := CJson.getObjectItemValueString_object names 4 rfl (by decide) rfl }

theorem forall₂_ipcItem (l : List IpcConf) :
    List.Forall₂ IpcItem (CJson.array (l.map IpcConf.toJson)).arrayItems l := by
  rw [CJson.arrayItems_array, List.forall₂_map_left_iff, List.forall₂_same]
  exact fun c _ => ipcItem_toJson c

theorem dvrItem_toJson (c : DvrConf) (hlist : c.IPClist.length ≤ netIpcMaxNum) :
    DvrItem c.toJson c :=
  let names := ["channels", "port", "Dvrname", "IPaddress", "username", "password", "serialnumber",
    "IPClist"]
  { channels := CJson.getObjectItemValueInt_object names 0 rfl (by decide) rfl
    port := CJson.getObjectItemValueInt_object names 1 rfl (by decide) rfl
    Dvrname := CJson.getObjectItemValueString_object names 2 rfl (by decide) rfl
    IPaddress := CJson.getObjectItemValueString_object names 3 rfl (by decide) rfl
    username := CJson.getObjectItemValueString_object names 4 rfl (by decide) rfl
    password := CJson.getObjectItemValueString_object names 5 rfl (by decide) rfl
    serialnumber := CJson.getObjectItemValueString_object names 6 rfl (by decide) rfl
    IPClist := ⟨_, CJson.getObjectItem_object names 7 rfl (by decide) rfl, forall₂_ipcItem c.IPClist⟩
    IPClist_le := hlist }

theorem dvrItem_toListJson (c : DvrConf) (hlist : c.IPClist.length ≤ netIpcMaxNum) :
    DvrItem c.toListJson c :=
  let names := ["port", "channels", "Dvrname", "IPaddress", "username", "password", "serialnumber",
    "IPClist"]
  { port := CJson.getObjectItemValueInt_object names 0 rfl (by decide) rfl
    channels := CJson.getObjectItemValueInt_object names 1 rfl (by decide) rfl
    Dvrname := CJson.getObjectItemValueString_object names 2 rfl (by decide) rfl
    IPaddress := CJson.getObjectItemValueString_object names 3 rfl (by decide) rfl
    username := CJson.getObjectItemValueString_object names 4 rfl (by decide) rfl
    password := CJson.getObjectItemValueString_object names 5 rfl (by decide) rfl
    serialnumber := CJson.getObjectItemValueString_object names 6 rfl (by decide) rfl
    IPClist := ⟨_, CJson.getObjectItem_object names 7 rfl (by decide) rfl, forall₂_ipcItem c.IPClist⟩
    IPClist_le := hlist }

theorem IPClist_length_le (p : HKDVRParam) :
    (jsonMapDvrInfoMake p).IPClist.length ≤ netIpcMaxNum := by
  rw [jsonMapDvrInfoMake, List.length_map, List.length_take]
  exact (Nat.min_le_left _ _).trans p.HkDvrInfo.wChannel_le

/-- The list that is built from records is the list of their configurations. -/
theorem represents_jsonMapDvrListInfoMake (Param : List HKDVRParam) :
    Represents (jsonMapDvrListInfoMake Param) (Param.map jsonMapDvrInfoMake) := by
  refine ⟨_, CJson.getObjectItem_object ["Dvrlist"] 0 rfl (by decide) rfl, ?_⟩
  rw [CJson.arrayItems_array, List.forall₂_map_left_iff, List.forall₂_map_right_iff,
    List.forall₂_same]
  exact fun p _ => dvrItem_toListJson _ (IPClist_length_le p)

/-! ## An item is one list only -/

theorem ipcItem_unique : Relator.RightUnique IpcItem := by
  intro item c c' h h'
  cases c
  cases c'
  obtain ⟨h₁, h₂, h₃, h₄, h₅⟩ := h
  obtain ⟨h₁', h₂', h₃', h₄', h₅'⟩ := h'
  simp_all

theorem dvrItem_unique : Relator.RightUnique DvrItem := by
  intro item c c' h h'
  have hlist : c.IPClist = c'.IPClist := by
    obtain ⟨a, ha, hitems⟩ := h.IPClist
    obtain ⟨a', ha', hitems'⟩ := h'.IPClist
    obtain rfl := Option.some.inj (ha.symm.trans ha')
    exact ipcItem_unique.forall₂ hitems hitems'
  obtain ⟨h₁, h₂, h₃, h₄, h₅, h₆, h₇, -, -⟩ := h
  obtain ⟨h₁', h₂', h₃', h₄', h₅', h₆', h₇', -, -⟩ := h'
  cases c
  cases c'
  simp_all

theorem Represents.unique {conf : CJson} {l l' : List DvrConf} (h : Represents conf l)
    (h' : Represents conf l') : l = l' := by
  obtain ⟨a, ha, hitems⟩ := h
  obtain ⟨a', ha', hitems'⟩ := h'
  obtain rfl := Option.some.inj (ha.symm.trans ha')
  exact dvrItem_unique.forall₂ hitems hitems'

end SmartPlat.HkSdkManage
