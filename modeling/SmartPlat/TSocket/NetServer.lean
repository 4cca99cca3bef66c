import SmartPlat.Lib.Allocation
import SmartPlat.Lib.Transition

set_option autoImplicit false

/-! # The server thread of `ExtLibs/TSocket/tsocket.c`

`NetServerThead` with `CheckSelectExcept` and `CheckSelectRead`, one system call after the other, among
other threads that open and close descriptors. What `select`, `accept` and `recv` return is in the label
of the step. -/

namespace SmartPlat.TSocket

open SmartPlat.Lib

/-! ## The thread -/

/-- `SOCKETTYPE_E`, as far as sockets in the list have it. -/
inductive SocketType where
  | main
  | sub
  deriving DecidableEq, Repr

/-- `SocketList_S`. The peer's address is not needed; `file` is what `sockfd` stood for when the entry was
    made. -/
structure SocketList where
  sockfd : ℕ
  socketType : SocketType
  file : ℕ
  deriving DecidableEq, Repr

/-- The close callbacks that are registered. -/
inductive CloseCb where
  | httpClose
  | webHttpClose
  | hj212Close
  deriving DecidableEq, Repr

/-- Whether the callback passes its argument to `close`. -/
def CloseCb.closes : CloseCb → ℕ → Bool
  | httpClose, sockfd => 0 < sockfd
  | webHttpClose, _ => true
  | hj212Close, sockfd => 0 < sockfd

/-- `NetServerParam_T` as `NetCreateTcpSer` passes it on: the listening socket is open, and
    `NetServerThead` returns at once if its number is not positive. -/
structure NetServerParam (table : Descriptors) where
  mainSockfd : ℕ
  closecb : CloseCb
  file : ℕ
  pos : 0 < mainSockfd
  isOpen : table.file mainSockfd = some file

/-- What is done with an entry that is given up. -/
inductive RemovalAct where
  | listRemove
  | close
  | closecb
  | free
  deriving DecidableEq, Repr

/-- The end of `CheckSelectExcept`. -/
def exceptActs : List RemovalAct := [.listRemove, .close, .free]

/-- `READ_ERROR` in `CheckSelectRead`. -/
def readErrorActs : List RemovalAct := [.listRemove, .close, .closecb, .free]

/-- After `fstat` has failed in `NetServerThead`. -/
def selectErrorActs : List RemovalAct := [.closecb, .listRemove, .close, .free]

/-- The loop over the list, with the results of `select` and the entries from `node` on. -/
structure Scan where
  readfds : List ℕ
  errorfds : List ℕ
  rest : List SocketList
  deriving DecidableEq, Repr

inductive NetPc where
  /-- At the head of `while (bTsockFlag == KEY_TRUE)`. -/
  | loop
  | scan (scan : Scan)
  /-- In the loop of `CheckSelectRead`; `scan` is what comes behind. -/
  | recv (sockInfo : SocketList) (timeOutCount : ℕ) (scan : Scan)
  /-- After `select` has failed. -/
  | fstat (rest : List SocketList)
  /-- What is left to do with an entry, and the loop that is gone on with, if it is not left. -/
  | remove (acts : List RemovalAct) (sockInfo : SocketList) (scan : Option Scan)
  | ended
  deriving DecidableEq, Repr

structure NetState where
  table : Descriptors
  bTsockFlag : Bool
  list : List SocketList
  pc : NetPc

inductive NetEvent where
  /-- Another thread opens a file. -/
  | otherOpen (fd : ℕ)
  /-- Another thread closes a number. -/
  | otherClose (fd : ℕ)
  | setTsockFlag (b : Bool)
  /-- The flag is off. -/
  | leave
  | select (readfds errorfds : List ℕ)
  | selectTimeout
  | selectError
  /-- The next entry, unless it is a listening socket with a connection. -/
  | visit
  /-- `accept` returns that number, and `malloc` an entry or not. -/
  | accept (fd : ℕ) (granted : Bool)
  | acceptError
  /-- The flag is off. -/
  | recvLeave
  | recvTimeout
  /-- Nothing received, or an error. -/
  | recvError
  | recv (complete : Bool)
  | fstat
  | act
  deriving DecidableEq, Repr

namespace NetState

variable (s : NetState)

/-- The entry at `node`, and what the loop looks like behind it. -/
def visit (scan : Scan) : Option NetState :=
  match scan.rest with
  | [] => some { s with pc := .loop }
  | sockInfo :: rest =>
      if sockInfo.sockfd ∈ scan.errorfds then
        some { s with pc := .remove exceptActs sockInfo (some { scan with rest }) }
      else if sockInfo.sockfd ∉ scan.readfds then some { s with pc := .scan { scan with rest } }
      else if sockInfo.socketType = .main then none
      else some { s with pc := .recv sockInfo 0 { scan with rest } }

/-- `node` is a listening socket with a connection. -/
def Accepts (scan : Scan) : Prop :=
  ∃ sockInfo ∈ scan.rest.head?, sockInfo.sockfd ∉ scan.errorfds ∧ sockInfo.sockfd ∈ scan.readfds ∧
    sockInfo.socketType = .main

instance (scan : Scan) : Decidable (Accepts scan) :=
  inferInstanceAs (Decidable (∃ sockInfo ∈ scan.rest.head?, _))

/-- `accept` has returned `fd`. `nextnode` was read before the new entry was put behind the last one. -/
def accept (scan : Scan) (fd : ℕ) (granted : Bool) : NetState :=
  let rest := scan.rest.tail
  if 0 < fd ∧ granted then
    let newnode : SocketList := ⟨fd, .sub, s.table.next⟩
    { s with
      table := s.table.openAt fd
      list := s.list ++ [newnode]
      pc := .scan { scan with rest := if rest = [] then [] else rest ++ [newnode] } }
  else { s with table := s.table.openAt fd, pc := .scan { scan with rest } }

/-- One act of giving up an entry. -/
def act (closecb : CloseCb) (sockInfo : SocketList) : RemovalAct → NetState
  | .listRemove => { s with list := s.list.erase sockInfo }
  | .close => { s with table := s.table.closeAt sockInfo.sockfd }
  | .closecb =>
      if closecb.closes sockInfo.sockfd then { s with table := s.table.closeAt sockInfo.sockfd } else s
  | .free => s

/-- Where the thread goes on. -/
def resume : List RemovalAct → SocketList → Option Scan → NetPc
  | [], _, none => .loop
  | [], _, some scan => .scan scan
  | acts, sockInfo, scan => .remove acts sockInfo scan

/-! ### One system call, by the place where the thread is -/

def loopStep : NetEvent → Option NetState
  | .leave => if s.bTsockFlag then none else some { s with pc := .ended }
  | .select readfds errorfds =>
      if s.bTsockFlag ∧ ∀ fd ∈ readfds ++ errorfds, fd ∈ s.list.map SocketList.sockfd then
        some { s with pc := .scan ⟨readfds, errorfds, s.list⟩ }
      else none
  | .selectTimeout => if s.bTsockFlag then some s else none
  | .selectError => if s.bTsockFlag then some { s with pc := .fstat s.list } else none
  | _ => none

def scanStep (scan : Scan) : NetEvent → Option NetState
  | .visit => s.visit scan
  | .accept fd granted =>
      if Accepts scan ∧ s.table.Lowest fd then some (s.accept scan fd granted) else none
  | .acceptError =>
      if Accepts scan then some { s with pc := .scan { scan with rest := scan.rest.tail } } else none
  | _ => none

def recvStep (sockInfo : SocketList) (timeOutCount : ℕ) (scan : Scan) : NetEvent → Option NetState
  | .recvLeave => if s.bTsockFlag then none else some { s with pc := .scan scan }
  | .recvTimeout =>
      if s.bTsockFlag then
        if 5 < timeOutCount + 1 then some { s with pc := .remove readErrorActs sockInfo (some scan) }
        else some { s with pc := .recv sockInfo (timeOutCount + 1) scan }
      else none
  | .recvError =>
      if s.bTsockFlag then some { s with pc := .remove readErrorActs sockInfo (some scan) } else none
  | .recv complete =>
      if s.bTsockFlag then
        -- `readcb` and `break`, or once more
        if complete then some { s with pc := .scan scan }
        else some { s with pc := .recv sockInfo timeOutCount scan }
      else none
  | _ => none

def fstatStep (rest : List SocketList) : NetEvent → Option NetState
  | .fstat =>
      match rest with
      | [] => some { s with pc := .loop }
      | sockInfo :: rest =>
          if s.table.file sockInfo.sockfd = none then
            some { s with pc := .remove selectErrorActs sockInfo none }
          else some { s with pc := .fstat rest }
  | _ => none

def removeStep (closecb : CloseCb) (acts : List RemovalAct) (sockInfo : SocketList)
    (scan : Option Scan) : NetEvent → Option NetState
  | .act =>
      match acts with
      | [] => none
      | a :: acts => some { s.act closecb sockInfo a with pc := resume acts sockInfo scan }
  | _ => none

/-- What the thread does next, with that result of the system call. -/
def threadStep (closecb : CloseCb) (e : NetEvent) : Option NetState :=
  match s.pc with
  | .loop => s.loopStep e
  | .scan scan => s.scanStep scan e
  | .recv sockInfo timeOutCount scan => s.recvStep sockInfo timeOutCount scan e
  | .fstat rest => s.fstatStep rest e
  | .remove acts sockInfo scan => s.removeStep closecb acts sockInfo scan e
  | .ended => none

end NetState

def netStep (closecb : CloseCb) (s : NetState) : NetEvent → Option NetState
  | .otherOpen fd => if s.table.Lowest fd then some { s with table := s.table.openAt fd } else none
  | .otherClose fd => some { s with table := s.table.closeAt fd }
  | .setTsockFlag b => some { s with bTsockFlag := b }
  | e => s.threadStep closecb e

def NetStep (closecb : CloseCb) (s : NetState) (e : NetEvent) (s' : NetState) : Prop :=
  netStep closecb s e = some s'

/-- `NetServerThead` enters its loop. -/
def netServerThead {table : Descriptors} (param : NetServerParam table) : NetState where
  table := table
  bTsockFlag := true
  list := [⟨param.mainSockfd, .main, param.file⟩]
  pc := .loop

/-! ## What happens to the sockets -/

/-- Files, once for each time. -/
structure SocketLog where
  /-- Returned by `accept`. -/
  accepted : List ℕ
  /-- The thread has called `close` for an entry. -/
  closes : List ℕ
  /-- The close callback has been called for an entry. -/
  callbacks : List ℕ
  /-- The entry has been freed, or could not be made. -/
  dropped : List ℕ
  /-- `close` has been called with a number that no longer stood for the entry's file. -/
  late : Bool
  deriving DecidableEq, Repr

def SocketLog.empty : SocketLog := ⟨[], [], [], [], false⟩

/-- `close` is called for an entry. -/
def SocketLog.close (log : SocketLog) (s : NetState) (sockInfo : SocketList) : SocketLog :=
  { log with
    closes := sockInfo.file :: log.closes
    late := log.late || decide (s.table.file sockInfo.sockfd ≠ some sockInfo.file) }

def logSockets (closecb : CloseCb) (log : SocketLog) (s : NetState) (e : NetEvent) : SocketLog :=
  match s.pc, e with
  | .scan _, .accept fd granted =>
      { log with
        accepted := s.table.next :: log.accepted
        dropped := if 0 < fd ∧ granted then log.dropped else s.table.next :: log.dropped }
  | .remove (.close :: _) sockInfo _, .act => log.close s sockInfo
  | .remove (.closecb :: _) sockInfo _, .act =>
      { (if closecb.closes sockInfo.sockfd then log.close s sockInfo else log) with
        callbacks := sockInfo.file :: log.callbacks }
  | .remove (.free :: _) sockInfo _, .act => { log with dropped := sockInfo.file :: log.dropped }
  | _, _ => log

end SmartPlat.TSocket
