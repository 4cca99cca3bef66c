import Mathlib.Logic.Function.Basic
import SmartPlat.MediaQueue.Basic

set_option autoImplicit false

/-! # Media queue: `mediaqueue.c`

One ring buffer, one writer, up to four registered readers. `WriteData` first *balances* the read
pointers its write would run over: `MoveReadPoint` walks such a reader forward from frame to frame
(`FindNextIframe`) until it stands on a key frame beyond the bytes about to be written, and aborts
the server when there is none.

The two walking loops take a bound on their number of steps; `writeData` allots one step for every
byte of the buffer and one more, which is enough in every state a queue can reach. -/

namespace SmartPlat.MediaQueue

open SmartPlat.Lib

/-! ## Reading out of the ring -/

/-- `CopyDataOnQueue`: `readLen` bytes from `pRead` on, when that many lie before `pWrite`. -/
def copyDataOnQueue (dataBuff : List UInt8) (dataBuffSize pWrite pRead : ℕ)
    (readLen bufflen : ℤ) : Except Fault (Option (List UInt8)) :=
  let rwlen : ℤ := (pWrite : ℤ) - pRead
  let rwlen := if rwlen < 0 then dataBuffSize + rwlen else rwlen
  let cplen := dataBuffSize - pRead
  if readLen > bufflen then .ok none
  else if rwlen < readLen then .ok none
  -- a negative length, or a pointer behind the buffer, makes `memcpy` run away
  else if readLen < 0 ∨ dataBuffSize < pRead then .error .badAccess
  else if cplen ≥ readLen.toNat then .ok (some ((dataBuff.drop pRead).take readLen.toNat))
  else .ok (some ((dataBuff.drop pRead).take cplen ++ dataBuff.take (readLen.toNat - cplen)))

/-- The protocol head at `pCur`, if it is there and carries the sync bytes. -/
def readMeidaHead (dataBuff : List UInt8) (dataBuffSize pWrite pCur : ℕ) :
    Except Fault (Option MeidaHead) :=
  (copyDataOnQueue dataBuff dataBuffSize pWrite pCur sizeofMeidaHead 512).map fun b =>
    (b.map MeidaHead.ofBytes).filter MeidaHead.synced

/-- Length of the frame at `pCur`, header included, as `FindNextIframe` and `ReadData` both work it
    out. They differ in what `len` holds for any other media type (`other`). -/
def readFrameLen (other : Except Fault ℤ) (dataBuff : List UInt8)
    (dataBuffSize pWrite pCur : ℕ) : Except Fault (Option ℤ) :=
  (readMeidaHead dataBuff dataBuffSize pWrite pCur).bind fun
    | none => .ok none
    | some head =>
        if head.isVideo then
          (copyDataOnQueue dataBuff dataBuffSize pWrite pCur sizeofMeidaVideo 512).map
            (Option.map fun b => addInt32 (meidaVideoDatalen b) sizeofMeidaVideo)
        else if head.isAudio then
          (copyDataOnQueue dataBuff dataBuffSize pWrite pCur sizeofMeidaAudio 512).map
            (Option.map fun b => addInt32 (meidaAudioDatalen b) sizeofMeidaAudio)
        else other.map some

/-- Move a pointer `len` bytes on. One that lands on the end of the buffer stays there. -/
def nextPointer (dataBuffSize pCur : ℕ) (len : ℤ) : Except Fault ℕ :=
  if (pCur : ℤ) + len < 0 then .error .badAccess
  else if (pCur : ℤ) + len > dataBuffSize then .ok (len - (dataBuffSize - pCur)).toNat
  else .ok (pCur + len).toNat

/-! ## Moving readers out of the way -/

/-- The frame type byte of the video frame at `pCur`. -/
def readFrametype (buff : List UInt8) (buffSize curW pCur : ℕ) : Except Fault (Option UInt8) :=
  (copyDataOnQueue buff buffSize curW pCur sizeofMeidaVideo 512).map
    (Option.map meidaVideoFrametype)

/-- `FindNextIframe`: from the frame at `pCur`, the start of the next non-P video frame behind it;
    `none` when the unread bytes run out first. -/
def findNextIframe (curW : ℕ) (buff : List UInt8) (buffSize : ℕ) :
    ℕ → ℕ → Except Fault (Option ℕ)
  | 0, _ => .error .timeout
  | fuel + 1, pCur =>
      -- `len` is uninitialised for a media type that is neither video nor G711A
      (readFrameLen (.error .badAccess) buff buffSize curW pCur).bind fun
        | none => .ok none
        | some len => (nextPointer buffSize pCur len).bind fun pCur =>
            (readMeidaHead buff buffSize curW pCur).bind fun
              | none => .ok none
              | some head =>
                  if head.isVideo then
                    (readFrametype buff buffSize curW pCur).bind fun
                      | none => .ok none
                      | some frametype =>
                          if frametype != FrameType.p.code then .ok (some pCur)
                          else findNextIframe curW buff buffSize fuel pCur
                  else findNextIframe curW buff buffSize fuel pCur

/-- A key frame at `pR` is still in the way of the write: the loop condition of `MoveReadPoint`,
    once for a write up to the end of the buffer and once for one that goes on at its start. -/
def inTheWay (curW writeLen buffSize pR : ℕ) : Bool :=
  if curW + writeLen ≤ buffSize then decide (pR > curW ∧ pR ≤ curW + writeLen)
  else
    let dis := curW + writeLen - buffSize
    decide (pR > curW ∧ pR ≤ buffSize) || decide (pR ≤ dis)

/-- `MoveReadPoint`: the first key frame behind `curR` that is out of the way. -/
def moveReadPoint (curW writeLen : ℕ) (buff : List UInt8) (buffSize : ℕ) :
    ℕ → ℕ → Except Fault ℕ
  | 0, _ => .error .timeout
  | fuel + 1, curR =>
      (findNextIframe curW buff buffSize (buffSize + 1) curR).bind fun
        | none => .error .assertFail
        | some pR =>
            if inTheWay curW writeLen buffSize pR then
              moveReadPoint curW writeLen buff buffSize fuel pR
            else .ok pR

/-- The loop over the read pointers: move every registered one that meets the guard. -/
def balanceReaders (guard : ℕ → Bool) (move : ℕ → Except Fault ℕ) :
    List (Fin queueUseMax) → (Fin queueUseMax → Option ℕ) →
      Except Fault (Fin queueUseMax → Option ℕ)
  | [], pRead => .ok pRead
  | i :: is, pRead =>
      match pRead i with
      | none => balanceReaders guard move is pRead
      | some r =>
          if guard r then
            (move r).bind fun r' =>
              balanceReaders guard move is (Function.update pRead i (some r'))
          else balanceReaders guard move is pRead

/-! ## The interface -/

/-- `WriteData`. -/
def writeData (handle : QueueHandle) (data : List UInt8) : Except Fault (ℤ × QueueHandle) :=
  match handle.pWrite with
  | none => .ok (keyFalse, handle)
  | some pWrite =>
      if handle.enabled = false then .ok (keyFalse, handle)
      else
        let len := data.length
        let size := handle.dataBuffSize
        let writeLen := size - pWrite
        let move := moveReadPoint pWrite len handle.dataBuff size (size + 1)
        let users := List.finRange queueUseMax
        let pWrite' := (pWrite + len) % size
        if writeLen ≥ len then
          (balanceReaders (fun r => decide (r > pWrite ∧ r < pWrite + len)) move users
              handle.pRead).map fun pRead =>
            (keyTrue, { handle with
              pRead := pRead
              dataBuff := overwrite handle.dataBuff pWrite data
              pWrite := some pWrite' })
        else
          (balanceReaders (fun r => decide (r > pWrite ∧ r ≤ size)) move users
              handle.pRead).bind fun pRead =>
            (balanceReaders (fun r => decide (r ≤ len - writeLen)) move users pRead).map
              fun pRead =>
                (keyTrue, { handle with
                  pRead := pRead
                  dataBuff := overwrite (overwrite handle.dataBuff pWrite (data.take writeLen)) 0
                    (data.drop writeLen)
                  pWrite := some pWrite' })

/-- The staging buffer of `WriteVideoRawData`. -/
def videoRawMax : ℕ := 400 * 1024

/-- `WriteVideoRawData`; what `WriteData` returned is dropped. -/
def writeVideoRawData (handle : QueueHandle) (data : List UInt8) (param : QueueVideoInputInfo)
    (mediaType : MediaType) : Except Fault (ℤ × QueueHandle) :=
  if videoRawMax < sizeofMeidaVideo + data.length then .error .badAccess
  else (writeData handle (rawFrame mediaType param.bytes data)).map fun r => (keyTrue, r.2)

/-- The staging buffer of `WriteAudioRawData`. -/
def audioRawMax : ℕ := 320

/-- `WriteAudioRawData`. -/
def writeAudioRawData (handle : QueueHandle) (data : List UInt8) (param : QueueAudioInputInfo)
    (mediaType : MediaType) : Except Fault (ℤ × QueueHandle) :=
  if audioRawMax < sizeofMeidaAudio + data.length then .error .badAccess
  else (writeData handle (rawFrame mediaType param.bytes data)).map fun r => (keyTrue, r.2)

/-- `ReadData`: the bytes copied out on success. -/
def readData (registerID : Fin queueUseMax) (handle : QueueHandle) (bufflen : ℤ) :
    Except Fault (Option (List UInt8) × QueueHandle) :=
  match handle.pRead registerID with
  | none => .ok (none, handle)
  | some pRead =>
      if handle.enabled = false then .ok (none, handle)
      else
        match handle.pWrite with
        | none => .error .badAccess
        | some pWrite =>
            (readFrameLen (.ok 0) handle.dataBuff handle.dataBuffSize pWrite pRead).bind fun
              | none => .ok (none, handle)
              | some len =>
                  (copyDataOnQueue handle.dataBuff handle.dataBuffSize pWrite pRead len
                      bufflen).bind fun
                    | none => .ok (none, handle)
                    | some data => (nextPointer handle.dataBuffSize pRead len).map fun pRead =>
                        (some data, { handle with
                          pRead := Function.update handle.pRead registerID (some pRead) })

/-- `CreateQueue`: a fresh buffer, no reader registered. -/
def createQueue (queueSize : ℕ) : QueueHandle where
  enabled := true
  pWrite := some 0
  pRead := fun _ => none
  dataBuff := List.replicate queueSize 0
  dataBuffSize := queueSize

/-- `MediaQueueRegistReadHandle`: a new reader starts at the write pointer. With all four slots
    taken the index stays `-1`, and the store goes to the word in front of `pRead`, which is
    `pWrite` itself. -/
def mediaQueueRegistReadHandle (handle : QueueHandle) : ℤ × QueueHandle :=
  if handle.enabled = false then (keyFalse, handle)
  else
    match (List.finRange queueUseMax).find? (fun i => (handle.pRead i).isNone) with
    | some i => ((i : ℤ), { handle with pRead := Function.update handle.pRead i handle.pWrite })
    | none => (keyFalse, { handle with pWrite := handle.pWrite })

/-! ## The table of queues and the readers' handles

`queueHandle[QUEUE_CHN_MAX]` holds the queues; a queue is known by its index. `CreateQueue` takes the
first index from 1 on that is not in use, `DisdroyQueue` gives it back. A reader keeps a
`MediaQueueRegistHandle_T` of its own: the index of the queue and the index of its read pointer. -/

abbrev queueChnMax : ℕ := 201

abbrev QueueTable : Type := Fin queueChnMax → QueueHandle

/-- `MediaQueueRegistHandle_T`; of `pReadData` only whether it is set. -/
structure MediaQueueRegistHandle where
  pReadData : Bool
  registerID : ℤ
  queueID : ℤ
  deriving DecidableEq, Repr

/-- `&queueHandle[queueID]`, when there is such an element. -/
def queueIndex (queueID : ℤ) : Option (Fin queueChnMax) :=
  if h : 0 ≤ queueID ∧ queueID < queueChnMax then some ⟨queueID.toNat, by omega⟩ else none

/-! ## Creating and destroying -/

/-- `GetQueueID`: the first index that is not in use; index 0 is never given out. -/
def getQueueID (queueHandle : QueueTable) : Option (Fin queueChnMax) :=
  (List.finRange queueChnMax).find? fun i => decide (1 ≤ i.val) && !(queueHandle i).enabled

theorem getQueueID_unused {queueHandle : QueueTable} {i : Fin queueChnMax}
    (hget : getQueueID queueHandle = some i) : (queueHandle i).enabled = false := by
  have h := List.find?_some hget
  simp only [Bool.and_eq_true, Bool.not_eq_true'] at h
  exact h.2

/-- What `CreateQueue` does under the lock of the queue it has chosen; `mem` says whether `malloc`
    gives it a buffer. -/
def claimQueue (handle : QueueHandle) (queueSize : ℕ) (mem : Bool) : Option QueueHandle :=
  if handle.enabled then none
  else if mem then some (createQueue queueSize)
  else none

/-- `CreateQueue` -/
def createQueueIn (queueHandle : QueueTable) (queueSize : ℕ) (mem : Bool) : ℤ × QueueTable :=
  match getQueueID queueHandle with
  | none => (-1, queueHandle)
  | some i =>
      match claimQueue (queueHandle i) queueSize mem with
      | none => (-1, queueHandle)
      | some q => (i, Function.update queueHandle i q)

/-- A queue that is not in use: so `MediaQueueInit` leaves it, and so does `DisdroyQueue`. -/
def unusedQueue : QueueHandle where
  enabled := false
  pWrite := none
  pRead := fun _ => none
  dataBuff := []
  dataBuffSize := 0

/-- `DisdroyQueue`; the index is not checked. -/
def disdroyQueue (queueHandle : QueueTable) (queueID : ℤ) : Except Fault (ℤ × QueueTable) :=
  match queueIndex queueID with
  | none => .error .badAccess
  | some q =>
      if (queueHandle q).enabled then
        .ok (keyTrue, Function.update queueHandle q unusedQueue)
      else .ok (keyFalse, queueHandle)

/-! ## Readers -/

/-- The check of `queueID` both functions make: `QUEUE_CHN_MAX` itself passes. -/
def queueIDRefused (queueID : ℤ) : Prop := queueID < 0 ∨ queueID > queueChnMax

instance (queueID : ℤ) : Decidable (queueIDRefused queueID) := inferInstanceAs (Decidable (_ ∨ _))

/-- `MediaQueueRegistReadHandle` on the whole table. -/
def registReadHandle (queueHandle : QueueTable) (handle : MediaQueueRegistHandle) :
    Except Fault (ℤ × QueueTable × MediaQueueRegistHandle) :=
  if queueIDRefused handle.queueID then .ok (-1, queueHandle, handle)
  else
    match queueIndex handle.queueID with
    | none => .error .badAccess
    | some q =>
        if (queueHandle q).enabled then
          let r := mediaQueueRegistReadHandle (queueHandle q)
          .ok (r.1, Function.update queueHandle q r.2,
            { handle with registerID := r.1, pReadData := true })
        else .ok (keyFalse, queueHandle, handle)

/-- `qhandle->pRead[registerID] = NULL`; the word in front of `pRead` is `pWrite`. -/
def clearReader (q : QueueHandle) (registerID : ℤ) : Except Fault QueueHandle :=
  if registerID = -1 then .ok { q with pWrite := none }
  else if h : 0 ≤ registerID ∧ registerID < queueUseMax then
    .ok { q with pRead := Function.update q.pRead ⟨registerID.toNat, by omega⟩ none }
  else .error .badAccess

/-- `MediaQueueUnRegistReadHandle`; whether the queue is in use is not asked. -/
def unRegistReadHandle (queueHandle : QueueTable) (handle : MediaQueueRegistHandle) :
    Except Fault (ℤ × QueueTable × MediaQueueRegistHandle) :=
  if queueIDRefused handle.queueID then .ok (-1, queueHandle, handle)
  else
    match queueIndex handle.queueID with
    | none => .error .badAccess
    | some q => (clearReader (queueHandle q) handle.registerID).map fun q' =>
        (keyTrue, Function.update queueHandle q q', { handle with pReadData := false })

/-! ## Runs -/

/-- The queues, the handles of the callers, and which of these are live: the last registration of the
    handle succeeded, and neither was it unregistered nor its queue destroyed since. -/
structure QueueState where
  queueHandle : QueueTable
  handles : ℕ → MediaQueueRegistHandle
  live : ℕ → Bool

inductive QueueOp where
  | createQueue (queueSize : ℕ) (mem : Bool)
  | disdroyQueue (queueID : ℤ)
  | regist (h : ℕ) (queueID : ℤ)
  | unRegist (h : ℕ)
  deriving DecidableEq, Repr

/-- After `MediaQueueInit`; the handles of the callers are cleared. -/
def mediaQueueInit : QueueState where
  queueHandle := fun _ => unusedQueue
  handles := fun _ => ⟨false, 0, 0⟩
  live := fun _ => false

/-- One call. A caller sets the index of the queue in its handle before it registers. -/
def queueCall (s : QueueState) : QueueOp → Except Fault (ℤ × QueueState)
  | .createQueue queueSize mem =>
      let r := createQueueIn s.queueHandle queueSize mem
      .ok (r.1, { s with queueHandle := r.2 })
  | .disdroyQueue queueID => (disdroyQueue s.queueHandle queueID).map fun r =>
      (r.1, { s with
        queueHandle := r.2
        live := fun h => s.live h && decide ((s.handles h).queueID ≠ queueID) })
  | .regist h queueID =>
      (registReadHandle s.queueHandle { s.handles h with queueID := queueID }).map fun r =>
        (r.1, { queueHandle := r.2.1
                handles := Function.update s.handles h r.2.2
                live := Function.update s.live h (decide ((0 : ℤ) ≤ r.1)) })
  | .unRegist h => (unRegistReadHandle s.queueHandle (s.handles h)).map fun r =>
      (r.1, { queueHandle := r.2.1
              handles := Function.update s.handles h r.2.2
              live := Function.update s.live h false })

/-- A call with what it returned; nothing is said about the state after an access out of bounds. -/
inductive TableStep : QueueState → QueueOp × Option ℤ → QueueState → Prop
  | returns {s s' : QueueState} {op : QueueOp} {r : ℤ} :
      queueCall s op = .ok (r, s') → TableStep s (op, some r) s'
  | faults {s s' : QueueState} {op : QueueOp} {e : Fault} :
      queueCall s op = .error e → TableStep s (op, none) s'

/-! ## `CreateQueue` and `DisdroyQueue` in several threads

`GetQueueID` takes and releases the lock of one queue after the other, and `CreateQueue` takes the lock
of the queue it has chosen once more. Each of these critical sections is one step; threads are
numbered, and any number of calls may be under way. -/

/-- Where a thread is in `CreateQueue`. -/
inductive CreatePc where
  | idle
  /-- In `GetQueueID`, before it locks queue `i`. -/
  | scan (i queueSize : ℕ)
  /-- `GetQueueID` has returned `i`. -/
  | claim (i : Fin queueChnMax) (queueSize : ℕ)
  deriving DecidableEq, Repr

structure CreateState where
  queueHandle : QueueTable
  pc : ℕ → CreatePc

/-- Where `CreateQueue` returns `-1`. -/
inductive CreateFail where
  /-- `GetQueueID` has found no queue. -/
  | exhausted
  /-- The queue it found is in use by now. -/
  | lost
  /-- `malloc` has returned `NULL`. -/
  | noMemory
  deriving DecidableEq, Repr

inductive CreateEvent where
  | call (t queueSize : ℕ)
  | look (t : ℕ)
  | created (t : ℕ) (i : Fin queueChnMax)
  | fail (t : ℕ) (why : CreateFail)
  | disdroy (i : Fin queueChnMax) (r : ℤ)
  deriving DecidableEq, Repr

def createInit : CreateState := ⟨fun _ => unusedQueue, fun _ => .idle⟩

def CreateState.goto (s : CreateState) (t : ℕ) (pc : CreatePc) : CreateState :=
  { s with pc := Function.update s.pc t pc }

inductive CreateStep : CreateState → CreateEvent → CreateState → Prop
  | call {s : CreateState} {t queueSize : ℕ} :
      s.pc t = .idle → CreateStep s (.call t queueSize) (s.goto t (.scan 1 queueSize))
  | used {s : CreateState} {t queueSize : ℕ} {i : Fin queueChnMax} :
      s.pc t = .scan i queueSize → (s.queueHandle i).enabled = true →
        CreateStep s (.look t) (s.goto t (.scan (i + 1) queueSize))
  | free {s : CreateState} {t queueSize : ℕ} {i : Fin queueChnMax} :
      s.pc t = .scan i queueSize → (s.queueHandle i).enabled = false →
        CreateStep s (.look t) (s.goto t (.claim i queueSize))
  | exhausted {s : CreateState} {t queueSize : ℕ} :
      s.pc t = .scan queueChnMax queueSize →
        CreateStep s (.fail t .exhausted) (s.goto t .idle)
  | created {s : CreateState} {t queueSize : ℕ} {i : Fin queueChnMax} {q : QueueHandle} :
      s.pc t = .claim i queueSize → claimQueue (s.queueHandle i) queueSize true = some q →
        CreateStep s (.created t i)
          { s.goto t .idle with queueHandle := Function.update s.queueHandle i q }
  | lost {s : CreateState} {t queueSize : ℕ} {i : Fin queueChnMax} :
      s.pc t = .claim i queueSize → (s.queueHandle i).enabled = true →
        CreateStep s (.fail t .lost) (s.goto t .idle)
  | noMemory {s : CreateState} {t queueSize : ℕ} {i : Fin queueChnMax} :
      s.pc t = .claim i queueSize → (s.queueHandle i).enabled = false →
        claimQueue (s.queueHandle i) queueSize false = none →
        CreateStep s (.fail t .noMemory) (s.goto t .idle)
  | disdroy {s : CreateState} {i : Fin queueChnMax} {r : ℤ} {queueHandle : QueueTable} :
      disdroyQueue s.queueHandle i.val = .ok (r, queueHandle) →
        CreateStep s (.disdroy i r) { s with queueHandle := queueHandle }

/-! ## What a run has seen -/

/-- What the property talks about and no thread can see: the ids given out and not given back, and for
    the call a thread is in which queues were in use at some instant of it, whether all were at one
    instant, and whether another thread has created the queue it has chosen. -/
structure CallRecord where
  live : List (Fin queueChnMax)
  inUse : ℕ → Fin queueChnMax → Bool
  allInUse : ℕ → Bool
  taken : ℕ → Bool

def recordInit : CallRecord := ⟨[], fun _ _ => false, fun _ => false, fun _ => false⟩

/-- Every queue that `GetQueueID` looks at is in use. -/
def allUsed (queueHandle : QueueTable) : Bool :=
  (List.finRange queueChnMax).all fun i => decide (i.val = 0) || (queueHandle i).enabled

def CreateEvent.isCallOf : CreateEvent → ℕ → Bool
  | .call t' _, t => t' = t
  | _, _ => false

def CreateEvent.isLookOf : CreateEvent → ℕ → Bool
  | .look t', t => t' = t
  | _, _ => false

/-- Another thread creates the queue that thread `t` has chosen. -/
def CreateEvent.takes (s : CreateState) : CreateEvent → ℕ → Bool
  | .created t' i, t =>
      match s.pc t with
      | .claim j _ => decide (t' ≠ t) && decide (i = j)
      | _ => false
  | _, _ => false

def recordTick (g : CallRecord) (s : CreateState) (e : CreateEvent) : CallRecord where
  live := match e with
    | .created _ i => i :: g.live
    | .disdroy i r => if r = keyTrue then g.live.erase i else g.live
    | _ => g.live
  inUse t i := !e.isCallOf t && (g.inUse t i || (s.queueHandle i).enabled)
  allInUse t := !e.isCallOf t && (g.allInUse t || allUsed s.queueHandle)
  taken t := !e.isLookOf t && (g.taken t || e.takes s t)

end SmartPlat.MediaQueue
