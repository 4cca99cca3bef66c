import SmartPlat.Adp.Sessions
import SmartPlat.Lib.Allocation

set_option autoImplicit false

/-! # High-temperature listeners (`adpapi.c`, `vehicledataanalysis.c`)

A login whose handle has a `highTempFun` copies it into `highTempHandle`, the last member of the session
record, and registers the address of that member with the vehicle data module. At every alarm it
stores, the database thread of that module calls the handles registered. A logout takes the handle of
its session out of their list and releases it; then it takes the record out of the list of sessions and
releases the record.

Any number of threads log in and out. Each step below is one critical section of the lists, one call of
`free`, or what a thread does to its own record and handle in between. `MakeUsrID` is in
`Adp.Sessions`; here it may return any number. -/

namespace SmartPlat.Adp

open SmartPlat.Lib SmartPlat.UsrManage

/-- The address of a callback. -/
abbrev HighTempFunc := ℕ

/-- `AdpAPIHandle_T` with the callback its owner has set on it. -/
structure ListenerHandle extends AdpAPIHandle where
  highTempFun : Option HighTempFunc

/-- `AdpUsrRegistInfo_T` with the member of its `highTempHandle`. -/
structure ListenerRecord extends AdpUsrRegistInfo where
  highTempFun : Option HighTempFunc
  deriving DecidableEq

/-- `sizeof(UsrInfo_T)` -/
def sizeofUsrInfo : ℕ := 4 + 2 * (dfMaxlenUsrname + 1) + 2 * (dfMaxlenPasswd + 1) + 4

/-- The offset of `highTempHandle` in `AdpUsrRegistInfo_T`, behind a pointer, a handle of one pointer and
    a `UsrInfo_T`, with pointers of eight bytes. -/
def offsetHighTempHandle : ℕ := (8 + 8 + sizeofUsrInfo + 7) / 8 * 8

/-- `&usr->highTempHandle` -/
def highTempHandle (usr : ℕ) : Pointer := ⟨usr, offsetHighTempHandle⟩

/-- How far `AdpRegistHandle` has come. -/
inductive RegistStage where
  /-- In `AdpRegistManage`, before `AdpRegisterhighTempHandle`. -/
  | allocated
  /-- Before `MakeUsrID`. -/
  | registered
  /-- Before `HandleManageAddHandle`. -/
  | composed
  deriving DecidableEq, Repr

/-- How far `AdpUnRegistHandle` has come. -/
inductive UnRegistStage where
  /-- Before `HighTemperatureDetectionUnRegister`. -/
  | found
  /-- In `HighTemperatureDetectionUnRegister`, before `free(registerHandle)`. -/
  | unlinked
  /-- Before `HandleManageDelHandle`. -/
  | unregistered
  /-- Before `free(usr)`. -/
  | removed
  deriving DecidableEq, Repr

/-- What a thread is doing; a record is named by the block it was allocated in. -/
inductive ListenerPc where
  | idle
  | login (stage : RegistStage) (handle : HandlePtr) (usr : ℕ)
  | logout (stage : UnRegistStage) (handle : HandlePtr) (usr : ℕ)
  /-- In `AdpUnRegistHandle`, before `InitAdpAPIRegistHandleNoAuthor`. -/
  | cleared (handle : HandlePtr)
  deriving DecidableEq

structure ListenerState where
  /-- The list of the user module. -/
  usrs : List UsrInfo
  handles : HandlePtr → ListenerHandle
  heap : Heap
  records : ℕ → ListenerRecord
  listUsrRegistHead : List ℕ
  highTempDetectionHead : List Pointer
  /-- What `HandleManagePostLoop` still has to visit in `highTempDetectionHead`, whose mutex the database
      thread holds then. -/
  database : Option (List Pointer)
  threads : ℕ → ListenerPc

namespace ListenerState

variable (s : ListenerState)

/-- `GetUsrRegistInfo` -/
def getUsrRegistInfo (usrID : ℕ) : Option ℕ :=
  lookup (fun usr => (s.handles (s.records usr).apiHandle).usrID) usrID s.listUsrRegistHead

def setHandle (h : HandlePtr) (handle : ListenerHandle) : ListenerState :=
  { s with handles := Function.update s.handles h handle }

def setRecord (usr : ℕ) (record : ListenerRecord) : ListenerState :=
  { s with records := Function.update s.records usr record }

def setThread (t : ℕ) (pc : ListenerPc) : ListenerState :=
  { s with threads := Function.update s.threads t pc }

/-- `InitAdpAPIRegistHandleNoAuthor`; the callback stays. -/
def initNoAuthor (h : HandlePtr) : ListenerState :=
  s.setHandle h
    { s.handles h with usrID := 0, functions := initNoAuthorFunctions (s.handles h).functions }

end ListenerState

/-- The levels whose branch of `AdpRegistManage` ends in `AdpRegisterhighTempHandle`. -/
def registersHighTemp : UsrLevel → Bool
  | .invalid | .device => false
  | .operator | .administrator | .root => true

/-! ## Steps -/

inductive ListenerEvent where
  /-- The user module changes its list. -/
  | users (usrs : List UsrInfo)
  /-- The owner of a handle sets its callback. -/
  | setHighTempFun (h : HandlePtr) (fn : Option HighTempFunc)
  /-- `AdpRegistHandle` up to the call of `AdpRegisterhighTempHandle`. -/
  | regist (t : ℕ) (h : HandlePtr) (usrName passwd : CString)
  | registerHighTemp (t : ℕ)
  /-- `MakeUsrID` returns, and the id and the handle are set. -/
  | makeUsrID (t : ℕ) (n : ℕ)
  | addHandle (t : ℕ)
  /-- `AdpUnRegistHandle` up to the search for the record. -/
  | unRegist (t : ℕ) (h : HandlePtr)
  /-- The critical section of `HighTemperatureDetectionUnRegister`. -/
  | unRegisterHighTemp (t : ℕ)
  | freeRegisterHandle (t : ℕ)
  | delHandle (t : ℕ)
  | freeUsr (t : ℕ)
  | initNoAuthor (t : ℕ)
  /-- The database thread enters `HandleManagePostLoop`. -/
  | postLoop
  /-- `highTempDetectionLoopDoFunc` on the next handle. -/
  | callback
  | endLoop

/-- `AdpRegistHandle` up to the call of `AdpRegisterhighTempHandle`. -/
def registSession (t : ℕ) (h : HandlePtr) (usrName passwd : CString) (s : ListenerState) :
    Option ListenerState :=
  let userLevel := authentication usrName passwd s.usrs
  if userLevel = .invalid then some (s.initNoAuthor h)
  else
    let functions := installFunctions userLevel (initNoAuthorFunctions (s.handles h).functions)
    let usrName := snprintf dfMaxlenUsrname usrName
    let usr := s.heap.next.block
    (findByName usrName.str s.usrs).map fun registInfo =>
      ((({ s with heap := s.heap.malloc }.setRecord usr ⟨⟨0, registInfo⟩, none⟩).setHandle h
        { s.handles h with usrID := 0, usrName, functions }).setThread t (.login .allocated h usr))

/-- `AdpRegisterhighTempHandle`, with `HighTemperatureDetectionRegister`; `none` while the database
    thread has the mutex. -/
def adpRegisterhighTempHandle (h : HandlePtr) (usr : ℕ) (s : ListenerState) :
    Option ListenerState :=
  match (s.handles h).highTempFun with
  | none => some s
  | some fn =>
      if s.database.isSome then none
      else some
        { s.setRecord usr { s.records usr with highTempFun := some fn } with
          highTempDetectionHead := s.highTempDetectionHead ++ [highTempHandle usr] }

/-- One step; `none` when the thread is somewhere else or waits for a mutex. -/
def listenerStep (s : ListenerState) : ListenerEvent → Option ListenerState
  | .users usrs => some { s with usrs }
  | .setHighTempFun h fn => some (s.setHandle h { s.handles h with highTempFun := fn })
  | .regist t h usrName passwd =>
      match s.threads t with
      | .idle => registSession t h usrName passwd s
      | _ => none
  | .registerHighTemp t =>
      match s.threads t with
      | .login .allocated h usr =>
          if registersHighTemp (s.records usr).usrInfo.userLevel then
            (adpRegisterhighTempHandle h usr s).map (·.setThread t (.login .registered h usr))
          else some (s.setThread t (.login .registered h usr))
      | _ => none
  | .makeUsrID t n =>
      match s.threads t with
      | .login .registered h usr =>
          let usrID := composeID (s.records usr).usrInfo.userLevel n
          some (((s.setHandle h { s.handles h with usrID }).setRecord usr
            { s.records usr with apiHandle := h }).setThread t (.login .composed h usr))
      | _ => none
  | .addHandle t =>
      match s.threads t with
      | .login .composed _ usr =>
          some ({ s with listUsrRegistHead := s.listUsrRegistHead ++ [usr] }.setThread t .idle)
      | _ => none
  | .unRegist t h =>
      match s.threads t with
      | .idle =>
          match s.getUsrRegistInfo (s.handles h).usrID with
          | none => some s
          | some usr => some (s.setThread t (.logout .found h usr))
      | _ => none
  | .unRegisterHighTemp t =>
      match s.threads t with
      | .logout .found h usr =>
          if s.database.isSome then none
          else if highTempHandle usr ∈ s.highTempDetectionHead then
            some ({ s with
              highTempDetectionHead := s.highTempDetectionHead.erase (highTempHandle usr) }.setThread t
                (.logout .unlinked h usr))
          else some (s.setThread t (.logout .unregistered h usr))
      | _ => none
  | .freeRegisterHandle t =>
      match s.threads t with
      | .logout .unlinked h usr =>
          some ({ s with heap := s.heap.free (highTempHandle usr) }.setThread t
            (.logout .unregistered h usr))
      | _ => none
  | .delHandle t =>
      match s.threads t with
      | .logout .unregistered h usr =>
          some ({ s with listUsrRegistHead := s.listUsrRegistHead.erase usr }.setThread t
            (.logout .removed h usr))
      | _ => none
  | .freeUsr t =>
      match s.threads t with
      | .logout .removed h usr =>
          some ({ s with heap := s.heap.free ⟨usr, 0⟩ }.setThread t (.cleared h))
      | _ => none
  | .initNoAuthor t =>
      match s.threads t with
      | .cleared h => some ((s.initNoAuthor h).setThread t .idle)
      | _ => none
  | .postLoop =>
      match s.database with
      | none => some { s with database := some s.highTempDetectionHead }
      | some _ => none
  | .callback =>
      match s.database with
      | some (_ :: rest) => some { s with database := some rest }
      | _ => none
  | .endLoop =>
      match s.database with
      | some [] => some { s with database := none }
      | _ => none

def ListenerStep (s : ListenerState) (e : ListenerEvent) (s' : ListenerState) : Prop :=
  listenerStep s e = some s'

/-- Before the first login; memory that is not allocated yet may hold anything. -/
def ListenerState.init (usrs : List UsrInfo) (handles : HandlePtr → ListenerHandle)
    (records : ℕ → ListenerRecord) : ListenerState where
  usrs
  handles
  heap := .init
  records
  listUsrRegistHead := []
  highTempDetectionHead := []
  database := none
  threads _ := .idle

/-! ## What listeners are for -/

/-- The record a thread has a pointer to. -/
def ListenerPc.usr : ListenerPc → Option ℕ
  | .login _ _ usr | .logout _ _ usr => some usr
  | .idle | .cleared _ => none

/-- The session is being logged out. -/
def ListenerPc.LogsOut (usr : ℕ) : ListenerPc → Prop
  | .logout _ _ usr' => usr' = usr
  | _ => False

/-- **One listener per session.** The list holds one entry for each session with a callback that nobody
    is logging out, and no entry of a record that is released. Records are released only through the
    address `malloc` returned, and once: those in the list of sessions are not released yet, those
    neither in the list nor in the hands of a login or a logout are. Every handle the database thread
    has still to call lies in a record that is not released. -/
structure ListenerState.ListenersSound (s : ListenerState) : Prop where
  once : s.highTempDetectionHead.Nodup
  listed : ∀ usr ∈ s.listUsrRegistHead, (s.records usr).highTempFun.isSome →
    (∀ t, ¬ (s.threads t).LogsOut usr) → highTempHandle usr ∈ s.highTempDetectionHead
  live : ∀ p ∈ s.highTempDetectionHead, ∃ usr, p = highTempHandle usr ∧ s.heap.Live usr ∧
    (s.records usr).highTempFun.isSome
  owned : s.heap.invalid = []
  kept : ∀ usr ∈ s.listUsrRegistHead, s.heap.Live usr
  released : ∀ usr < s.heap.allocated, usr ∉ s.listUsrRegistHead →
    (∀ t, (s.threads t).usr ≠ some usr) → usr ∈ s.heap.freed
  called : ∀ l, s.database = some l → ∀ p ∈ l, s.heap.Live p.block

end SmartPlat.Adp
