import Mathlib.Data.Int.ModEq
import Mathlib.Data.List.Enum
import SmartPlat.CString
import SmartPlat.Lib.Blocks
import SmartPlat.Lib.FirstMatch

set_option autoImplicit false

/-! # The cameras of the station: `Modules/DeviceManage/devicemanage.c`

The list in memory is searched by `deviceID`; every operation changes it and calls the database
afterwards, through the handle `MySqlManageRegister` fills in. -/

namespace SmartPlat.DeviceManage

open SmartPlat.Lib

def keyForbidden : ℤ := 403

def keyNotfound : ℤ := 404

/-- What an array of `DF_USERDEVICENUM_MAX` bytes holds beside the NUL. -/
def dfUserdevicenumMax : ℕ := 127

/-- `DeviceInfoParam_T`, the only member of `DeviceStorageInfo_T`. -/
structure DeviceStorageInfo where
  deviceModel : ℤ
  onlineStatus : ℤ
  deviceIpaddr : CharArray 15
  deviceID : CharArray dfUserdevicenumMax
  deviceName : CharArray dfUserdevicenumMax
  deviceSoftwareVer : CharArray dfUserdevicenumMax
  deriving DecidableEq, Repr

/-- The text in `deviceID`. -/
abbrev DeviceStorageInfo.id (info : DeviceStorageInfo) : CString := info.deviceID.str

/-- The callbacks of `MySqlManage_T`, on a database `Db`: what they return, and what they leave. -/
structure MySqlManage (Db : Type) where
  pAddDevice : Option (DeviceStorageInfo → Db → ℤ × Db)
  pDelDevice : Option (CString → Db → ℤ × Db)
  pSetDeviceInfo : Option (DeviceStorageInfo → Db → ℤ × Db)

/-- `DeviceListInner_T`, and the database behind the handle. -/
structure DeviceListInner (Db : Type) where
  listHead : List DeviceStorageInfo
  db : Db

variable {Db : Type}

/-- `HandleManageGetHandleByStr` on `deviceID`. -/
def getHandleByStr (deviceID : CString) (listHead : List DeviceStorageInfo) :
    Option DeviceStorageInfo :=
  lookup DeviceStorageInfo.id deviceID listHead

/-- A callback, or `KEY_FALSE` where there is none. -/
def callback (f : Option (Db → ℤ × Db)) (s : DeviceListInner Db) : ℤ × DeviceListInner Db :=
  match f with
  | none => (keyFalse, s)
  | some f => ((f s.db).1, { s with db := (f s.db).2 })

/-- `GetDeviceInfo`, with what it copies out. -/
def getDeviceInfo (deviceID : CString) (s : DeviceListInner Db) : ℤ × Option DeviceStorageInfo :=
  if deviceID.strlen = 0 then (keyFalse, none)
  else
    match getHandleByStr deviceID s.listHead with
    | none => (keyNotfound, none)
    | some device => (keyTrue, some device)

/-- `SetDeviceInfo`: the whole record is copied over the one found. -/
def setDeviceInfo (mysqlHandle : MySqlManage Db) (deviceID : CString)
    (info : Option DeviceStorageInfo) (s : DeviceListInner Db) : ℤ × DeviceListInner Db :=
  match info with
  | none => (keyFalse, s)
  | some info =>
    if deviceID.strlen = 0 then (keyFalse, s)
    else
      match getHandleByStr deviceID s.listHead with
      | none => (keyNotfound, s)
      | some _ =>
        callback (mysqlHandle.pSetDeviceInfo.map fun f => f info)
          { s with
            listHead := modifyFirst DeviceStorageInfo.id deviceID (fun _ => info) s.listHead }

/-- `AddDevice` -/
def addDevice (mysqlHandle : MySqlManage Db) (info : Option DeviceStorageInfo)
    (s : DeviceListInner Db) : ℤ × DeviceListInner Db :=
  match info with
  | none => (keyFalse, s)
  | some info =>
    if info.id.strlen = 0 then (keyFalse, s)
    else
      match getHandleByStr info.id s.listHead with
      | some _ => (keyForbidden, s)
      | none =>
        callback (mysqlHandle.pAddDevice.map fun f => f info)
          { s with listHead := s.listHead ++ [info] }

/-- `DelDevice`: ids of more than 32 bytes are refused. -/
def delDevice (mysqlHandle : MySqlManage Db) (deviceID : CString) (s : DeviceListInner Db) :
    ℤ × DeviceListInner Db :=
  if 32 < deviceID.strlen then (keyFalse, s)
  else if deviceID.strlen = 0 then (keyNotfound, s)
  else
    match getHandleByStr deviceID s.listHead with
    | none => (keyNotfound, s)
    | some _ =>
      callback (mysqlHandle.pDelDevice.map fun f => f deviceID)
        { s with listHead := eraseFirst DeviceStorageInfo.id deviceID s.listHead }

/-! ## Calls -/

inductive DeviceCall where
  | addDevice (info : Option DeviceStorageInfo)
  | delDevice (deviceID : CString)
  | setDeviceInfo (deviceID : CString) (info : Option DeviceStorageInfo)
  deriving DecidableEq, Repr

def DeviceCall.run (mysqlHandle : MySqlManage Db) (s : DeviceListInner Db) :
    DeviceCall → ℤ × DeviceListInner Db
  | .addDevice info => DeviceManage.addDevice mysqlHandle info s
  | .delDevice deviceID => DeviceManage.delDevice mysqlHandle deviceID s
  | .setDeviceInfo deviceID info => DeviceManage.setDeviceInfo mysqlHandle deviceID info s

/-! ## Listing the cameras (`FunGetDeviceInfoList` in `jsonswitch.c`)

The list of cameras is gone through twice: once to count the cameras that have an id, for the size of an
array, and once to copy all of them into it. Each time the mutex of the list is held, but not between. -/

variable {Db : Type} {l : List DeviceStorageInfo} {mallocOk : Bool} {memory : ℕ → DeviceStorageInfo}

/-! ## The two traversals -/

/-- `GetCameraInfoNum`: what it leaves in `*num`, an `int`. -/
def getCameraInfoNum (listHead : List DeviceStorageInfo) : ℤ :=
  ((listHead.countP fun info => info.id.strlen ≠ 0 : ℕ) : ℤ).bmod (2 ^ 32)

/-- `GetCameraInfoList`: the copies into `deviceInfo[i]`. -/
def getCameraInfoList (listHead : List DeviceStorageInfo) : List (Write DeviceStorageInfo) :=
  listHead.zipIdx.map fun x => ⟨x.2, [x.1]⟩

/-! ## What other threads do between them -/

/-- A change of the list under its mutex: the node that `AddDevice` has made, or the one `DelDevice` has
    found. A node that is no longer there is not removed. -/
inductive ListEvent where
  | append (info : DeviceStorageInfo)
  | remove (i : ℕ)
  deriving DecidableEq, Repr

def ListEvent.run (l : List DeviceStorageInfo) : ListEvent → List DeviceStorageInfo
  | .append info => l ++ [info]
  | .remove i => l.eraseIdx i

def runEvents (l : List DeviceStorageInfo) (es : List ListEvent) : List DeviceStorageInfo :=
  es.foldl ListEvent.run l

/-- The cameras that come in. -/
def added (es : List ListEvent) : ℕ :=
  es.countP fun e => match e with
    | .append _ => true
    | .remove _ => false

/-- The cameras that go. -/
def removed : List DeviceStorageInfo → List ListEvent → ℕ
  | _, [] => 0
  | l, .append info :: es => removed (l ++ [info]) es
  | l, .remove i :: es => (if i < l.length then 1 else 0) + removed (l.eraseIdx i) es

theorem callback_listHead (f : Option (Db → ℤ × Db)) (s : DeviceListInner Db) :
    (callback f s).2.listHead = s.listHead := by
  cases f <;> rfl

/-- **Adding.** `AddDevice` leaves the list alone or appends one node. -/
theorem addDevice_event (mysqlHandle : MySqlManage Db) (info : Option DeviceStorageInfo)
    (s : DeviceListInner Db) :
    ∃ es : List ListEvent, (addDevice mysqlHandle info s).2.listHead = runEvents s.listHead es ∧
      es.length ≤ 1 := by
  unfold addDevice
  split
  · exact ⟨[], rfl, Nat.zero_le 1⟩
  · next info =>
      split
      · exact ⟨[], rfl, Nat.zero_le 1⟩
      · split
        · exact ⟨[], rfl, Nat.zero_le 1⟩
        · exact ⟨[.append info], callback_listHead _ _, Nat.le_refl 1⟩

/-- **Deleting.** `DelDevice` leaves the list alone or removes one node. -/
theorem delDevice_event (mysqlHandle : MySqlManage Db) (deviceID : CString) (s : DeviceListInner Db) :
    ∃ es : List ListEvent, (delDevice mysqlHandle deviceID s).2.listHead = runEvents s.listHead es ∧
      es.length ≤ 1 := by
  unfold delDevice
  split
  · exact ⟨[], rfl, Nat.zero_le 1⟩
  · split
    · exact ⟨[], rfl, Nat.zero_le 1⟩
    · split
      · exact ⟨[], rfl, Nat.zero_le 1⟩
      · next found hfound =>
          obtain ⟨l₁, l₂, hl, -, -, herase⟩ := exists_of_lookup hfound
          refine ⟨[.remove l₁.length], ?_, Nat.le_refl 1⟩
          rw [callback_listHead]
          show eraseFirst _ _ _ = s.listHead.eraseIdx l₁.length
          rw [herase, hl, List.eraseIdx_append_of_length_le (Nat.le_refl _), Nat.sub_self,
            List.eraseIdx_cons_zero]

theorem length_runEvents (l : List DeviceStorageInfo) (es : List ListEvent) :
    (runEvents l es).length + removed l es = l.length + added es := by
  induction es generalizing l with
  | nil => rfl
  | cons e es ih =>
      cases e with
      | append info =>
          have ih := ih (l ++ [info])
          simp only [runEvents, List.foldl_cons, ListEvent.run, removed, added, List.countP_cons,
            List.length_append, List.length_singleton, if_true] at ih ⊢
          omega
      | remove i =>
          have ih := ih (l.eraseIdx i)
          simp only [runEvents, List.foldl_cons, ListEvent.run, removed, added, List.countP_cons,
            Bool.false_eq_true, if_false, List.length_eraseIdx] at ih ⊢
          by_cases hi : i < l.length
          · rw [if_pos hi] at ih ⊢
            omega
          · rw [if_neg hi] at ih ⊢
            omega

/-! ## The request -/

/-- What `FunGetDeviceInfoList` does: the entries it allocates and the copies into them, and what it
    returns. -/
structure DeviceListReply where
  rc : ℤ
  allocated : ℕ
  writes : List (Write DeviceStorageInfo)
  /-- The cameras that `JsonMapGetDeviceInfoList` is handed. -/
  deviceList : List DeviceStorageInfo

/-- `FunGetDeviceInfoList` with an administrator's handle: `es` is what happens between the two calls,
    `mallocOk` whether `malloc` returns memory, and `memory` what is in it. -/
def funGetDeviceInfoList (listHead : List DeviceStorageInfo) (es : List ListEvent) (mallocOk : Bool)
    (memory : ℕ → DeviceStorageInfo) : DeviceListReply :=
  let num := getCameraInfoNum listHead
  if num ≤ 0 then { rc := keyNotfound, allocated := 0, writes := [], deviceList := [] }
  else
    let writes := getCameraInfoList (runEvents listHead es)
    { rc := keyTrue
      allocated := if mallocOk then num.toNat else 0
      writes := writes
      deviceList := (List.range num.toNat).map (applyWrites memory writes) }

/-- The copies stay within what was allocated; and when nothing happens between the two calls, there are
    as many of them as entries. -/
def ListAgreesWithCount (es : List ListEvent) (reply : DeviceListReply) : Prop :=
  WritesWithin reply.allocated reply.writes ∧ reply.writes.length ≤ reply.allocated ∧
    (es = [] → reply.writes.length = reply.allocated)

/-- How many cameras of the registry the count leaves out. Below `2 ^ 31` cameras these are the ones
    without an id. -/
def uncounted (listHead : List DeviceStorageInfo) : ℤ := listHead.length - getCameraInfoNum listHead

/-- When this is so: no camera is counted; or there is memory, and the cameras left out by the count and
    the cameras added are made up for by cameras removed; or there is no memory, and no camera is left. -/
def Room (listHead : List DeviceStorageInfo) (es : List ListEvent) (mallocOk : Bool) : Prop :=
  getCameraInfoNum listHead ≤ 0 ∨
    if mallocOk then uncounted listHead + added es ≤ removed listHead es
    else listHead.length + added es ≤ removed listHead es

@[simp]
theorem length_getCameraInfoList : (getCameraInfoList l).length = l.length := by
  rw [getCameraInfoList, List.length_map, List.length_zipIdx]

theorem writesWithin_getCameraInfoList {size : ℕ} :
    WritesWithin size (getCameraInfoList l) ↔ l.length ≤ size := by
  constructor
  · intro h
    rcases List.eq_nil_or_concat' l with rfl | ⟨init, info, rfl⟩
    · exact Nat.zero_le size
    · have hlast : (⟨init.length, [info]⟩ : Write DeviceStorageInfo) ∈
          getCameraInfoList (init ++ [info]) := by
        simp [getCameraInfoList, List.zipIdx_append]
      simpa using h _ hlast
  · intro h w hw
    obtain ⟨⟨info, i⟩, hi, rfl⟩ := List.mem_map.mp hw
    have hlt := (List.mem_zipIdx hi).2.1
    show i + 1 ≤ size
    omega

theorem getCameraInfoNum_le : getCameraInfoNum l ≤ l.length := by
  have hcount := List.countP_le_length (p := fun info : DeviceStorageInfo => info.id.strlen ≠ 0) (l := l)
  exact Int.le_trans (bmod_le_self _ _) (Int.ofNat_le.mpr hcount)

/-- Below `2 ^ 31` cameras the count leaves out those without an id. -/
theorem uncounted_eq (hlen : l.length < 2 ^ 31) :
    uncounted l = l.countP fun info => info.id.strlen = 0 := by
  have hcount := l.length_eq_countP_add_countP fun info => info.id.strlen ≠ 0
  have hunnamed : (l.countP fun info => ¬ decide (info.id.strlen ≠ 0) = true) =
      l.countP fun info => info.id.strlen = 0 :=
    congrArg (l.countP ·) (funext fun info => by simp)
  have hnum : getCameraInfoNum l = l.countP fun info => info.id.strlen ≠ 0 := by
    unfold getCameraInfoNum
    exact Int.bmod_eq_of_le (by omega) (by omega)
  unfold uncounted
  omega

/-- **The array has room.** The copies stay within the array that was allocated, and fill it when nothing
    happens in between, exactly if the cameras that are copied without being counted are made up for. -/
theorem list_agrees_iff (l : List DeviceStorageInfo) (es : List ListEvent) (mallocOk : Bool)
    (memory : ℕ → DeviceStorageInfo) :
    ListAgreesWithCount es (funGetDeviceInfoList l es mallocOk memory) ↔ Room l es mallocOk := by
  have hle := getCameraInfoNum_le (l := l)
  have hlength := length_runEvents l es
  unfold ListAgreesWithCount funGetDeviceInfoList Room
  simp only
  split
  · next hnum =>
      refine iff_of_true ⟨?_, Nat.le_refl 0, fun _ => rfl⟩ (.inl hnum)
      exact fun w hw => absurd hw List.not_mem_nil
  · next hnum =>
      rw [writesWithin_getCameraInfoList, length_getCameraInfoList, or_iff_right hnum, uncounted]
      -- without events the array is as long as the list can be
      have hfull : (runEvents l es).length ≤ (if mallocOk then (getCameraInfoNum l).toNat else 0) →
          es = [] → (runEvents l es).length = if mallocOk then (getCameraInfoNum l).toNat else 0 := by
        rintro hroom rfl
        have hnil : (runEvents l []).length = l.length := rfl
        cases mallocOk with
        | false => exact Nat.eq_zero_of_le_zero hroom
        | true =>
            simp only [if_true] at hroom ⊢
            omega
      constructor
      · rintro ⟨hroom, -⟩
        cases mallocOk with
        | false =>
            simp only [Bool.false_eq_true, if_false] at hroom ⊢
            omega
        | true =>
            simp only [if_true] at hroom ⊢
            omega
      · intro hroom
        have hfits : (runEvents l es).length ≤ if mallocOk then (getCameraInfoNum l).toNat else 0 := by
          cases mallocOk with
          | false =>
              simp only [Bool.false_eq_true, if_false] at hroom ⊢
              omega
          | true =>
              simp only [if_true] at hroom ⊢
              omega
        exact ⟨hfits, hfits, hfull hfits⟩

/-- A camera with a given id. -/
def camera (id : CharArray dfUserdevicenumMax) : DeviceStorageInfo where
  deviceModel := 0
  onlineStatus := 0
  deviceIpaddr := ⟨⟨[], zero_notMem_nil⟩, by decide⟩
  deviceID := id
  deviceName := ⟨⟨[], zero_notMem_nil⟩, by decide⟩
  deviceSoftwareVer := ⟨⟨[], zero_notMem_nil⟩, by decide⟩

/-- A camera is added between the two calls: one entry, two copies. And a registry with a camera that has
    no id: one entry, two copies although nothing happens in between. -/
theorem camera_added_between :
    let named := camera ⟨⟨[99], by decide⟩, by decide⟩
    let unnamed := camera ⟨⟨[], by decide⟩, by decide⟩
    let reply := funGetDeviceInfoList [named] [.append (camera ⟨⟨[100], by decide⟩, by decide⟩)] true
      fun _ => unnamed
    let quiet := funGetDeviceInfoList [named, unnamed] [] true fun _ => unnamed
    reply.allocated = 1 ∧ reply.writes.length = 2 ∧ ¬ WritesWithin reply.allocated reply.writes ∧
      quiet.allocated = 1 ∧ quiet.writes.length = 2 := by
  decide

end SmartPlat.DeviceManage
