import SmartPlat.TimeManage
import SmartPlat.Common
import SmartPlat.Lib.FirstMatch
import SmartPlat.Lib.Transition

set_option autoImplicit false

/-! # The alarm queue (`Modules/AlarmManage/alarmmanage.c`)

Producers append alarms with `AlarmMsgInput`; past the limit each of them drops the oldest one first.
One thread takes the head with `AlarmMsgOut`, hands it to the callbacks in a second critical section,
and removes it by its address with `AlarmMsgDel` in a third. `malloc` may give out any address that is
not allocated, and is taken not to fail. -/

namespace SmartPlat.AlarmManage

open SmartPlat.Lib

/-- `ENUM_ALARMTYPE_E` -/
inductive EnumAlarmtype where
  | default
  | temperature
  | smoke
  deriving DecidableEq, Repr

/-- `AlarmInfo_T`. The temperature is the bits of a `float` that is only copied. -/
structure AlarmInfo where
  Alarmtype : EnumAlarmtype
  Alarmtime : TimeYMD
  temperature : UInt32
  deriving DecidableEq, Repr

/-- `MAX_PUSHMSG_NUM` -/
def maxPushmsgNum : ℤ := 200

/-- A record `AlarmMsgInput` has allocated and linked, for the alarm accepted after `serial` others. -/
structure AlarmMsg where
  addr : ℕ
  serial : ℕ
  info : AlarmInfo
  deriving DecidableEq

/-- Where `AlarmManageProc` is in its loop. -/
inductive ProcPc where
  /-- Before `AlarmMsgOut`. -/
  | idle
  /-- `AlarmMsgOut` returned this record. -/
  | out (msg : AlarmMsg)
  /-- In `HandleManagePostLoop` with this many callbacks to go; `AlarmMsgDel` comes after the last. -/
  | posting (msg : AlarmMsg) (left : ℕ)
  deriving DecidableEq

/-- The queue, the thread, and what has happened so far. -/
structure AlarmState where
  headlist : List AlarmMsg
  msgnum : ℤ
  proc : ProcPc
  /-- The alarms `AlarmMsgInput` returned `KEY_TRUE` for. -/
  accepted : List AlarmInfo
  /-- The alarms whose callbacks have been started. -/
  dispatched : List ℕ
  /-- What each callback found at the address it was given. -/
  calls : List (ℕ × Option AlarmInfo)
  /-- The alarms dropped on overflow, with those in the queue then. -/
  evicted : List (ℕ × List ℕ)
  /-- What `AlarmMsgDel` was called for, and what it removed. -/
  deleted : List (ℕ × ℕ)
  deriving DecidableEq

def AlarmState.init : AlarmState := ⟨[], 0, .idle, [], [], [], [], []⟩

/-- `AlarmMsgInput` up to the allocation: above the limit the head is unlinked and freed; `none` for
    `return KEY_FALSE`. -/
def AlarmState.makeRoom (s : AlarmState) : Option AlarmState :=
  if s.msgnum > maxPushmsgNum then
    s.headlist.head?.map fun pTmpmsg =>
      { s with
        headlist := eraseFirst AlarmMsg.addr pTmpmsg.addr s.headlist
        msgnum := s.msgnum - 1
        evicted := s.evicted ++ [(pTmpmsg.serial, s.headlist.map AlarmMsg.serial)] }
  else some s

/-- The rest of `AlarmMsgInput`, with the address `malloc` gives out. -/
def AlarmState.append (s : AlarmState) (info : AlarmInfo) (addr : ℕ) : AlarmState :=
  { s with
    headlist := s.headlist ++ [⟨addr, s.accepted.length, info⟩]
    msgnum := s.msgnum + 1
    accepted := s.accepted ++ [info] }

/-- `AlarmMsgInput`; `none` where `malloc` cannot give out the address. -/
def alarmMsgInput (info : AlarmInfo) (addr : ℕ) (s : AlarmState) : Option (ℤ × AlarmState) :=
  match s.makeRoom with
  | none => some (keyFalse, s)
  | some s₁ =>
      if addr ∈ s₁.headlist.map AlarmMsg.addr then none else some (keyTrue, s₁.append info addr)

/-- `AlarmMsgOut` -/
def alarmMsgOut (s : AlarmState) : Option AlarmMsg := s.headlist.head?

/-- `AlarmPushLoopDoFunc`: a callback reads the record through the pointer, also when the record has
    been freed meanwhile. -/
def AlarmState.alarmPushLoopDoFunc (s : AlarmState) (msg : AlarmMsg) : AlarmState :=
  let found := (lookup AlarmMsg.addr msg.addr s.headlist).map AlarmMsg.info
  { s with calls := s.calls ++ [(msg.serial, found)] }

/-- `AlarmMsgDel`: the first record at the address of `msg` is unlinked and freed. -/
def alarmMsgDel (msg : AlarmMsg) (s : AlarmState) : ℤ × AlarmState :=
  match lookup AlarmMsg.addr msg.addr s.headlist with
  | none => (keyFalse, s)
  | some found =>
      (keyTrue,
        { s with
          headlist := eraseFirst AlarmMsg.addr msg.addr s.headlist
          msgnum := s.msgnum - 1
          deleted := s.deleted ++ [(msg.serial, found.serial)] })

/-! ## Steps -/

inductive AlarmEvent where
  /-- Any thread calls `AlarmMsgInput`. -/
  | input (info : AlarmInfo) (addr : ℕ)
  | msgOut
  /-- `HandleManagePostLoop` starts, with so many callbacks registered. -/
  | postLoop (count : ℕ)
  /-- The next callback is called. -/
  | callback
  | msgDel
  deriving DecidableEq

/-- One critical section, or one callback. -/
def alarmStep (s : AlarmState) : AlarmEvent → Option AlarmState
  | .input info addr => (alarmMsgInput info addr s).map Prod.snd
  | .msgOut =>
      match s.proc with
      | .idle =>
          match alarmMsgOut s with
          | none => some s
          | some msg => some { s with proc := .out msg }
      | _ => none
  | .postLoop count =>
      match s.proc with
      | .out msg =>
          some { s with proc := .posting msg count, dispatched := s.dispatched ++ [msg.serial] }
      | _ => none
  | .callback =>
      match s.proc with
      | .posting msg (left + 1) =>
          some { s.alarmPushLoopDoFunc msg with proc := .posting msg left }
      | _ => none
  | .msgDel =>
      match s.proc with
      | .posting msg 0 => some { (alarmMsgDel msg s).2 with proc := .idle }
      | _ => none

def AlarmStep (s : AlarmState) (e : AlarmEvent) (s' : AlarmState) : Prop := alarmStep s e = some s'

/-! ## What dispatching is for -/

/-- The record in dispatch: from `AlarmMsgOut` until its callbacks have run. -/
def ProcPc.current : ProcPc → Option AlarmMsg
  | .out msg | .posting msg (_ + 1) => some msg
  | _ => none

/-- The record the thread has a pointer to. -/
def ProcPc.held : ProcPc → Option AlarmMsg
  | .idle => none
  | .out msg | .posting msg _ => some msg

/-- **Exactly once.** No alarm is dispatched twice; an accepted alarm waits in the queue, has been
    dispatched, or was dropped undispatched, as the oldest of more than `MAX_PUSHMSG_NUM`; the record
    in dispatch is allocated and its callbacks see the alarm that was accepted; and `AlarmMsgDel`
    removes what it is called for. -/
structure AlarmState.ExactlyOnce (s : AlarmState) : Prop where
  once : s.dispatched.Nodup
  accounted : ∀ n < s.accepted.length, n ∈ s.headlist.map AlarmMsg.serial ∨ n ∈ s.dispatched ∨
    n ∈ s.evicted.map Prod.fst ∧ n ∉ s.dispatched
  oldest : ∀ e ∈ s.evicted, maxPushmsgNum < (e.2.length : ℤ) ∧ ∀ n ∈ e.2, e.1 ≤ n
  allocated : ∀ msg, s.proc.current = some msg → msg ∈ s.headlist
  faithful : ∀ c ∈ s.calls, c.1 < s.accepted.length ∧ c.2 = s.accepted[c.1]?
  removed : ∀ d ∈ s.deleted, d.1 = d.2

end SmartPlat.AlarmManage
