import SmartPlat.HkSdkManage.Basic
import SmartPlat.MediaQueue.Queue

set_option autoImplicit false

/-! # RTMP: the streaming thread `RtmpProc` and the cameras it streams

A thread streams one camera. It works on one element of `rtmpMng.rtmpUser`, which other threads change
under it: `RtmpSetSerconfig` asks every thread to connect again, `delCameraCallBack` switches the camera
off. The thread connects, registers a reader with the media queue, and pushes frames until one of the
two happens or a frame cannot be sent. Each access to the element is one step. -/

namespace SmartPlat.Rtmp

open SmartPlat.Lib SmartPlat.MediaQueue SmartPlat.HkSdkManage

/-- `RtmpStatus_E` -/
inductive RtmpStatus where
  | disconnect
  | connected
  | needReconnect
  deriving DecidableEq, Repr

/-- `RtmpUserInfo_T` -/
structure RtmpUserInfo where
  stat : RtmpStatus
  channel : ℤ
  queueid : ℤ
  enable : ℤ
  SerialNumber : DvrString
  deriving DecidableEq

/-- Where the thread is. -/
inductive ProcPc where
  /-- Before the test of the outer loop. -/
  | test
  /-- At the top of the body: `enable` is read once more, then `RtmpConnect`. -/
  | connect
  | sendMeta
  /-- `mediaHandle.queueID = fd->rtmpUser[i].queueid` -/
  | load
  /-- `MediaQueueRegistReadHandle` -/
  | regist
  /-- `fd->rtmpUser[i].stat = RTMP_CONNECTED` -/
  | connected
  /-- Before the test of the inner loop. -/
  | stream
  /-- Behind the outer loop: the element is cleared. -/
  | reset
  | unRegist
  | ended
  deriving DecidableEq, Repr

inductive ProcEvent where
  | test
  | connect (ok : Bool)
  | sendMeta (ok : Bool)
  | load
  | regist (r : ℤ)
  | connected
  | leave
  | noReader
  | pull (ret : ℤ)
  | reset
  | unRegist
  deriving DecidableEq, Repr

/-- The element the thread works on, the thread, and the queues. -/
structure ProcState where
  user : RtmpUserInfo
  pc : ProcPc
  mediaHandle : MediaQueueRegistHandle
  queueHandle : QueueTable

/-- `char data[350 * 1024]` -/
def dataMax : ℤ := 350 * 1024

/-- The frame that was read is sent and `PushVideoData` fails. -/
def pushFailed (data : Option (List UInt8)) (ret : ℤ) : Bool :=
  match data with
  | none => false
  | some b => decide ((MeidaHead.ofBytes b).mediaType = MediaType.h264.code) && decide (ret < 0)

/-- The element as the thread leaves it; `enable` stays. -/
def RtmpUserInfo.cleared (u : RtmpUserInfo) : RtmpUserInfo :=
  { u with channel := -1, queueid := -1, stat := .disconnect, SerialNumber := emptyArray _ }

/-- A step of `RtmpProc`. -/
inductive ProcStep : ProcState → ProcEvent → ProcState → Prop
  | enter {s : ProcState} :
      s.pc = .test → s.user.enable = 1 → ProcStep s .test { s with pc := .connect }
  | exit {s : ProcState} :
      s.pc = .test → s.user.enable ≠ 1 → ProcStep s .test { s with pc := .reset }
  | connect {s : ProcState} {ok : Bool} :
      s.pc = .connect → ProcStep s (.connect ok)
        { s with pc := if s.user.enable ≠ 0 ∧ ok = true then .sendMeta else .test }
  | sendMeta {s : ProcState} {ok : Bool} :
      s.pc = .sendMeta →
        ProcStep s (.sendMeta ok) { s with pc := if ok then .load else .test }
  | load {s : ProcState} :
      s.pc = .load → ProcStep s .load
        { s with pc := .regist, mediaHandle := { s.mediaHandle with queueID := s.user.queueid } }
  | regist {s : ProcState} {r : ℤ} {queueHandle : QueueTable} {handle : MediaQueueRegistHandle} :
      s.pc = .regist → registReadHandle s.queueHandle s.mediaHandle = .ok (r, queueHandle, handle) →
        0 ≤ r → ProcStep s (.regist r)
          { s with pc := .connected, queueHandle := queueHandle,
                   mediaHandle := { handle with registerID := r } }
  /-- `return NULL`: nothing is given back. -/
  | refused {s : ProcState} {r : ℤ} {queueHandle : QueueTable} {handle : MediaQueueRegistHandle} :
      s.pc = .regist → registReadHandle s.queueHandle s.mediaHandle = .ok (r, queueHandle, handle) →
        r < 0 → ProcStep s (.regist r)
          { s with pc := .ended, queueHandle := queueHandle, mediaHandle := handle }
  | connected {s : ProcState} :
      s.pc = .connected → ProcStep s .connected
        { s with pc := .stream, user := { s.user with stat := .connected } }
  | leave {s : ProcState} :
      s.pc = .stream → ¬ (s.user.stat = .connected ∧ s.user.enable = 1) →
        ProcStep s .leave { s with pc := .test }
  | noReader {s : ProcState} :
      s.pc = .stream → s.user.stat = .connected → s.user.enable = 1 →
        s.mediaHandle.pReadData = false → ProcStep s .noReader s
  | pull {s : ProcState} {q : Fin queueChnMax} {i : Fin queueUseMax} {data : Option (List UInt8)}
      {q' : QueueHandle} {ret : ℤ} :
      s.pc = .stream → s.user.stat = .connected → s.user.enable = 1 →
        s.mediaHandle.pReadData = true → s.mediaHandle.queueID = q.val →
        s.mediaHandle.registerID = i.val →
        readData i (s.queueHandle q) dataMax = .ok (data, q') →
        ProcStep s (.pull ret)
          { s with queueHandle := Function.update s.queueHandle q q',
                   user := if pushFailed data ret then { s.user with stat := .disconnect }
                     else s.user }
  | reset {s : ProcState} :
      s.pc = .reset → ProcStep s .reset { s with pc := .unRegist, user := s.user.cleared }
  | unRegist {s : ProcState} {r : ℤ} {queueHandle : QueueTable} {handle : MediaQueueRegistHandle} :
      s.pc = .unRegist →
        unRegistReadHandle s.queueHandle s.mediaHandle = .ok (r, queueHandle, handle) →
        ProcStep s .unRegist
          { s with pc := .ended, queueHandle := queueHandle, mediaHandle := handle }

/-! ## The thread among the others -/

/-- `SetRtmpUserPram` with what `delCameraCallBack` passes: only channel and serial number stay. -/
def RtmpUserInfo.deleted (u : RtmpUserInfo) : RtmpUserInfo :=
  { u with stat := .disconnect, queueid := 0, enable := 0 }

inductive RtmpEvent where
  | proc (e : ProcEvent)
  | setSerconfig
  | delCamera
  | others
  deriving DecidableEq, Repr

/-- The thread, the two functions that reach into its element, and whoever else works on the queues:
    writers, other readers, `CreateQueue` and `DisdroyQueue`. -/
inductive RtmpStep : ProcState → RtmpEvent → ProcState → Prop
  | proc {s s' : ProcState} {e : ProcEvent} : ProcStep s e s' → RtmpStep s (.proc e) s'
  | setSerconfig {s : ProcState} :
      RtmpStep s .setSerconfig { s with user := { s.user with stat := .needReconnect } }
  | delCamera {s : ProcState} : RtmpStep s .delCamera { s with user := s.user.deleted }
  | others {s : ProcState} (queueHandle : QueueTable) :
      RtmpStep s .others { s with queueHandle := queueHandle }

/-- The thread when it starts: `mediaHandle = {0}`. -/
def procStart (user : RtmpUserInfo) (queueHandle : QueueTable) : ProcState :=
  ⟨user, .test, ⟨false, 0, 0⟩, queueHandle⟩

/-- The slots the thread has registered and not unregistered: queue and reader index. -/
def heldTick (held : List (ℤ × ℤ)) (s : ProcState) : RtmpEvent → List (ℤ × ℤ)
  | .proc (.regist r) => if 0 ≤ r then (s.mediaHandle.queueID, r) :: held else held
  | .proc .unRegist => held.erase (s.mediaHandle.queueID, s.mediaHandle.registerID)
  | _ => held

/-! ## The cameras that are streamed

`rtmpMng.rtmpUser` has an element for each camera that is streamed. `RtmpParamInit` fills the element
of a camera's index in its NVR, if that is free, and starts a thread that is given the channel number;
the thread looks for the first element with that channel. `addCameraCallBack` fills the first free
element; `delCameraCallBack` looks for channel and serial number. -/

abbrev rtmpUsrNum : ℕ := 256

/-- A camera by serial number of its NVR and channel, with its media queue. -/
structure Camera where
  serial : DvrString
  channel : ℤ
  queueid : ℤ
  deriving DecidableEq

/-- Serial number and channel agree. -/
def Camera.pair (c : Camera) : DvrString × ℤ := (c.serial, c.channel)

/-- What a thread is doing: not yet looked for its element, or at work on one. -/
inductive ThreadWork where
  | starting
  | running (i : Fin rtmpUsrNum) (pc : ProcPc) (mediaHandle : MediaQueueRegistHandle)

/-- A thread with its argument; `own` and `camera` record what was filled in when it was created. -/
structure RtmpThread where
  arg : ℤ
  work : ThreadWork
  own : Fin rtmpUsrNum
  camera : Camera

/-- The thread has not left its element for good. -/
def ProcPc.streams (pc : ProcPc) : Prop := pc ≠ .unRegist ∧ pc ≠ .ended

def RtmpThread.streams (t : RtmpThread) : Prop :=
  match t.work with
  | .starting => True
  | .running _ pc _ => pc.streams

/-- The table, the threads, and the loops of `RtmpParamInit`: the array `dvrParam`, of which
    `HksdkDeviceListGet` has filled `dvrNum` elements, and the number of cameras it has looked at.
    `cameras` records which cameras are to be streamed. -/
structure RtmpState where
  rtmpUser : Fin rtmpUsrNum → RtmpUserInfo
  threads : ℕ → Option RtmpThread
  next : ℕ
  dvrParam : ℕ → HKDVRParam
  dvrNum : ℕ
  pos : ℕ
  ready : Bool
  queueHandle : QueueTable
  cameras : List Camera

def freeUser : RtmpUserInfo := ⟨.disconnect, -1, -1, 0, emptyArray _⟩

/-- Before the loops of `RtmpParamInit`. -/
def rtmpParamInit (dvrParam : ℕ → HKDVRParam) (dvrNum : ℕ) (queueHandle : QueueTable) : RtmpState where
  rtmpUser := fun _ => freeUser
  threads := fun _ => none
  next := 0
  dvrParam := dvrParam
  dvrNum := dvrNum
  pos := 0
  ready := false
  queueHandle := queueHandle
  cameras := []

/-- Fill in element `i` and start the thread; when `pthread_create` fails it returns a positive number,
    which the check for a negative one lets pass. -/
def RtmpState.fill (s : RtmpState) (i : Fin rtmpUsrNum) (c : Camera) (ok : Bool) : RtmpState :=
  { s with
    rtmpUser := Function.update s.rtmpUser i ⟨.disconnect, c.channel, c.queueid, 1, c.serial⟩
    threads := if ok then Function.update s.threads s.next (some ⟨c.channel, .starting, i, c⟩)
      else s.threads
    next := if ok then s.next + 1 else s.next }

/-- Camera `j` of NVR `i`, when it has a queue and the NVR a serial number. -/
def dvrCamera (dvrParam : ℕ → HKDVRParam) (i : ℕ) (j : Fin netIpcMaxNum) : Option Camera :=
  let dvr := dvrParam i
  if 0 < dvr.serial.str.strlen ∧ 0 < (dvr.HkSdkParam j).sQueueID then
    some ⟨dvr.serial, (dvr.HkSdkParam j).sChannel, (dvr.HkSdkParam j).sQueueID⟩
  else none

/-- NVR and camera the loops are at. -/
def RtmpState.dvrIndex (s : RtmpState) : ℕ := s.pos / netIpcMaxNum

def RtmpState.ipcIndex (s : RtmpState) : Fin netIpcMaxNum :=
  ⟨s.pos % netIpcMaxNum, Nat.mod_lt _ (by decide)⟩

/-- The element of a camera's index. -/
def ipcUser (j : Fin netIpcMaxNum) : Fin rtmpUsrNum := j.castLE (by decide)

/-- The cameras of the NVRs that the loops do not reach. -/
def camerasBehind (dvrParam : ℕ → HKDVRParam) (dvrNum : ℕ) : List Camera :=
  (List.range (dvrNum - netNvrMaxNum)).flatMap fun k =>
    (List.finRange netIpcMaxNum).filterMap fun j => dvrCamera dvrParam (netNvrMaxNum + k) j

/-- The search of `RtmpProc` for its element. -/
def findChannel (rtmpUser : Fin rtmpUsrNum → RtmpUserInfo) (channel : ℤ) : Option (Fin rtmpUsrNum) :=
  (List.finRange rtmpUsrNum).find? fun i => (rtmpUser i).channel = channel

/-- The search of `addCameraCallBack`. -/
def findFree (rtmpUser : Fin rtmpUsrNum → RtmpUserInfo) : Option (Fin rtmpUsrNum) :=
  (List.finRange rtmpUsrNum).find? fun i =>
    (rtmpUser i).channel = -1 ∧ (rtmpUser i).SerialNumber.str.strlen = 0

/-- The search of `SetRtmpUserPram`. -/
def findCamera (rtmpUser : Fin rtmpUsrNum → RtmpUserInfo) (channel : ℤ) (serial : DvrString) :
    Option (Fin rtmpUsrNum) :=
  if channel < 0 then none
  else (List.finRange rtmpUsrNum).find? fun i =>
    (rtmpUser i).channel = channel ∧ (rtmpUser i).SerialNumber = serial

/-- The camera a callback is about. -/
def optCamera (param : DvrOpt) : Camera :=
  ⟨param.sDvrSerialNumber, param.wChannel, param.wQueueID⟩

inductive CameraEvent where
  | camera (ok : Bool)
  | ready
  | start (k : ℕ)
  | run (k : ℕ) (e : ProcEvent)
  | setSerconfig
  | add (param : DvrOpt) (ok : Bool)
  | del (param : DvrOpt)
  | others
  deriving DecidableEq

/-- The next turn of the loops of `RtmpParamInit`. -/
def RtmpState.nextCamera (s : RtmpState) (ok : Bool) : RtmpState :=
  let s' : RtmpState := { s with pos := s.pos + 1 }
  match dvrCamera s.dvrParam s.dvrIndex s.ipcIndex with
  | none => s'
  | some c =>
      let s' : RtmpState :=
        { s' with cameras := if s.dvrIndex < s.dvrNum then c :: s.cameras else s.cameras }
      if (s.rtmpUser (ipcUser s.ipcIndex)).channel = -1 then s'.fill (ipcUser s.ipcIndex) c ok else s'

/-- `addCameraCallBack` -/
def RtmpState.addCamera (s : RtmpState) (param : DvrOpt) (ok : Bool) : RtmpState :=
  let s' : RtmpState := { s with cameras := optCamera param :: s.cameras }
  match findFree s.rtmpUser with
  | none => s'
  | some i => s'.fill i (optCamera param) ok

/-- `delCameraCallBack` -/
def RtmpState.delCamera (s : RtmpState) (param : DvrOpt) : RtmpState :=
  let s' : RtmpState := { s with cameras := s.cameras.filter fun c => c.pair ≠ (optCamera param).pair }
  match findCamera s.rtmpUser param.wChannel param.sDvrSerialNumber with
  | none => s'
  | some i => { s' with rtmpUser := Function.update s.rtmpUser i (s.rtmpUser i).deleted }

/-- A thread that finds no element with its channel works behind the table; nothing more is said of
    it. -/
def RtmpState.startThread (s : RtmpState) (k : ℕ) (t : RtmpThread) : RtmpState :=
  { s with threads := Function.update s.threads k <|
      (findChannel s.rtmpUser t.arg).map fun i =>
        { t with work := .running i .test ⟨false, 0, 0⟩ } }

inductive CameraStep : RtmpState → CameraEvent → RtmpState → Prop
  | camera {s : RtmpState} {ok : Bool} :
      s.pos < netNvrMaxNum * netIpcMaxNum → CameraStep s (.camera ok) (s.nextCamera ok)
  | ready {s : RtmpState} :
      s.pos = netNvrMaxNum * netIpcMaxNum → s.ready = false →
        CameraStep s .ready { s with
          ready := true, cameras := camerasBehind s.dvrParam s.dvrNum ++ s.cameras }
  | start {s : RtmpState} {k : ℕ} {t : RtmpThread} :
      s.threads k = some t → t.work = .starting → CameraStep s (.start k) (s.startThread k t)
  | run {s : RtmpState} {k : ℕ} {t : RtmpThread} {i : Fin rtmpUsrNum} {pc : ProcPc}
      {mediaHandle : MediaQueueRegistHandle} {e : ProcEvent} {p : ProcState} :
      s.threads k = some t → t.work = .running i pc mediaHandle →
        ProcStep ⟨s.rtmpUser i, pc, mediaHandle, s.queueHandle⟩ e p →
        CameraStep s (.run k e)
          { s with
            rtmpUser := Function.update s.rtmpUser i p.user
            threads := Function.update s.threads k
              (some { t with work := .running i p.pc p.mediaHandle })
            queueHandle := p.queueHandle }
  | setSerconfig {s : RtmpState} :
      CameraStep s .setSerconfig
        { s with rtmpUser := fun i => { s.rtmpUser i with stat := .needReconnect } }
  | add {s : RtmpState} {param : DvrOpt} {ok : Bool} :
      s.ready = true → CameraStep s (.add param ok) (s.addCamera param ok)
  | del {s : RtmpState} {param : DvrOpt} :
      s.ready = true → CameraStep s (.del param) (s.delCamera param)
  | others {s : RtmpState} (queueHandle : QueueTable) :
      CameraStep s .others { s with queueHandle := queueHandle }

end SmartPlat.Rtmp
