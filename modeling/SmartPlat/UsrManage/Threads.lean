import SmartPlat.UsrManage.Operations
import Mathlib.Data.Finset.Basic
import Mathlib.Data.Finset.Dedup

set_option autoImplicit false

/-! # Users and threads (`usrmanage.c`)

The operations of `Operations.lean`, run by any number of threads. The list and each record have a
mutex of their own; a search, an insertion, a removal and an access to a record are each one step. In
between an operation holds nothing but a pointer. `CreateUsrid` counts without a lock. What the
database does is left out, except that two callbacks read the record itself. -/

namespace SmartPlat.UsrManage

open SmartPlat.Lib

/-- The address of a `UsrManageInfo_T`. -/
abbrev RecPtr := ℕ

/-! ## Requests -/

/-- The operations that search a user by name. -/
inductive UsrRequest where
  | getUserRegistInfo (usrname : CString)
  | modifyPassword (username oldPassword newPassword : CString)
  | resetPassword (username countrycode password : CString)
  | authentication (usrname password : CString)
  | modifyUsrInfo (curUsrInfo usrInfo : UsrInfo)
  | modifyUsrBindInfo (info : UsrInfo) (oldusrname : CString)
  | getUsrInfo (curUsrInfo usrInfo : UsrInfo)
  | getUsrInfoFromUsrName (usrName : CString)
  | checkUser (curUsrInfo info : UsrInfo)
  | addUsr (curUsrInfo info : UsrInfo)
  | delUsr (curUsrInfo usrInfo : UsrInfo)

namespace UsrRequest

/-- The name that is searched. -/
def usrname : UsrRequest → CString
  | .getUserRegistInfo name | .modifyPassword name _ _ | .resetPassword name _ _
  | .authentication name _ | .modifyUsrBindInfo _ name | .getUsrInfoFromUsrName name => name
  | .modifyUsrInfo _ info | .getUsrInfo _ info | .checkUser _ info | .addUsr _ info
  | .delUsr _ info => info.name

/-- The request passes what is checked before the search. -/
def Admitted : UsrRequest → Prop
  | .modifyPassword _ oldPassword newPassword =>
      ¬ (effectiveLength < oldPassword.strlen ∨ effectiveLength < newPassword.strlen)
  | .modifyUsrInfo curUsrInfo usrInfo => checkUsrInfoValidity usrInfo ≠ keyFalse ∧
      ¬ (curUsrInfo.name ≠ usrInfo.name ∨ curUsrInfo.userLevel < usrInfo.userLevel)
  | .getUsrInfo curUsrInfo usrInfo =>
      ¬ (curUsrInfo.name ≠ usrInfo.name ∨ curUsrInfo.userLevel < usrInfo.userLevel)
  | .checkUser curUsrInfo info | .addUsr curUsrInfo info =>
      checkUsrInfoValidity info ≠ keyFalse ∧ ¬ curUsrInfo.userLevel < info.userLevel
  | _ => True

instance : DecidablePred Admitted
  | .modifyPassword .. => inferInstanceAs (Decidable (¬ _))
  | .modifyUsrInfo .. => inferInstanceAs (Decidable (_ ∧ _))
  | .getUsrInfo .. => inferInstanceAs (Decidable (¬ _))
  | .checkUser .. | .addUsr .. => inferInstanceAs (Decidable (_ ∧ _))
  | .getUserRegistInfo _ | .resetPassword .. | .authentication .. | .modifyUsrBindInfo ..
  | .getUsrInfoFromUsrName _ | .delUsr .. => .isTrue trivial

/-- The record after the first access to it. `modifyUsrInfo` only reads it then. -/
def access : UsrRequest → UsrInfo → Except Fault UsrInfo
  | .modifyPassword _ oldPassword newPassword, info =>
      if info.passWord.str = oldPassword then
        (sprintf dfMaxlenPasswd newPassword).map fun passWord => { info with passWord }
      else .ok info
  | .resetPassword _ _ password, info =>
      (sprintf dfMaxlenPasswd password).map fun passWord => { info with passWord }
  | .modifyUsrBindInfo info _, usrinfo => .ok (rebind info usrinfo)
  | _, info => .ok info

end UsrRequest

/-! ## Threads -/

/-- Where a thread is. -/
inductive UsrPc where
  | idle
  /-- The search has found `p`. -/
  | found (req : UsrRequest) (p : RecPtr)
  /-- In `ModifyUsrInfo`, the level and the password of `info` read. -/
  | saved (usrInfo : UsrInfo) (p : RecPtr) (info : UsrInfo)
  /-- In `ModifyUsrInfo`, before `setUsrInfocb(&info->usrInfo)`. -/
  | stored (p : RecPtr)
  /-- In `DelUsr`, before `HandleManageDelHandle`. -/
  | delHandle (p : RecPtr)
  /-- In `DelUsr`, before `MyFree`. -/
  | free (p : RecPtr)
  /-- In `AddUsr`, `CheckUser` has found nobody. -/
  | checked (info : UsrInfo)
  /-- In `CreateUsrid`, before `i` is read. -/
  | createUsrid (p : RecPtr)
  /-- In `CreateUsrid`, before the search for `usrid`. -/
  | candidate (p : RecPtr) (usrid : UInt32)
  /-- In `CreateUsrid`, before `i++`. -/
  | taken (p : RecPtr)
  /-- In `AddUsr`, the record complete. -/
  | record (p : RecPtr)
  /-- In `AddUsr`, before `addUsrcb(&usrManageinfo->usrInfo)`. -/
  | added (p : RecPtr)

namespace UsrPc

/-- The record that the operation has looked up and is going to use. -/
def held : UsrPc → Option RecPtr
  | .found _ p | .saved _ p _ | .stored p | .delHandle p | .free p => some p
  | _ => none

/-- The record that `AddUsr` has not entered in the list yet. -/
def own : UsrPc → Option RecPtr
  | .createUsrid p | .candidate p _ | .taken p | .record p => some p
  | _ => none

end UsrPc

structure UsrServer where
  mem : RecPtr → UsrInfo
  allocated : Finset RecPtr
  listHead : List RecPtr
  /-- The static counter of `CreateUsrid`. -/
  i : UInt32
  threads : ℕ → UsrPc

namespace UsrServer

variable (s : UsrServer)

/-- `HandleManageGetHandleByStr` on `usrname`. -/
def findPtr (name : CString) : Option RecPtr := lookup (fun p => (s.mem p).name) name s.listHead

/-- `HandleManageGetHandleByInt` on `usrID`. -/
def findID (usrid : UInt32) : Option RecPtr := lookup (fun p => (s.mem p).usrID) usrid s.listHead

def setThread (t : ℕ) (pc : UsrPc) : UsrServer :=
  { s with threads := Function.update s.threads t pc }

def setRecord (p : RecPtr) (info : UsrInfo) : UsrServer :=
  { s with mem := Function.update s.mem p info }

/-- The name that a call of `AddUsr` has checked and not added yet. -/
def pendingName (t : ℕ) : Option CString :=
  match s.threads t with
  | .checked info => some info.name
  | pc => pc.own.map fun p => (s.mem p).name

end UsrServer

/-! ## Steps -/

inductive UsrEvent where
  /-- An operation up to its search, or as a whole if it ends there. -/
  | call (t : ℕ) (req : UsrRequest)
  /-- The first access to the record that was found. -/
  | access (t : ℕ)
  /-- The write of `ModifyUsrInfo`. -/
  | store (t : ℕ)
  | setUsrInfocb (t : ℕ)
  | delHandle (t : ℕ)
  | free (t : ℕ)
  /-- `malloc` returns `p`, and `info` is copied there. -/
  | malloc (t : ℕ) (p : RecPtr)
  /-- `usrid = 1000000 + i`. -/
  | candidate (t : ℕ)
  | search (t : ℕ)
  | increment (t : ℕ)
  | addHandle (t : ℕ)
  | addUsrcb (t : ℕ)

/-- The thread that makes the step. -/
def UsrEvent.thread : UsrEvent → ℕ
  | .call t _ | .access t | .store t | .setUsrInfocb t | .delHandle t | .free t | .malloc t _
  | .candidate t | .search t | .increment t | .addHandle t | .addUsrcb t => t

/-- Where an operation is after its first access to the record `info` at `p`. -/
def UsrRequest.next (p : RecPtr) (info : UsrInfo) : UsrRequest → UsrPc
  | .modifyUsrInfo _ usrInfo => .saved usrInfo p info
  | .delUsr curUsrInfo _ => if curUsrInfo.userLevel < info.userLevel then .idle else .delHandle p
  | _ => .idle

/-- A search that finds nobody; two operations then go on with a null pointer. -/
def notFound (s : UsrServer) (t : ℕ) : UsrRequest → Option UsrServer
  | .addUsr _ info => some (s.setThread t (.checked info))
  | .getUserRegistInfo _ | .modifyPassword .. => none
  | _ => some s

/-- One step of the server; `none` when the thread is somewhere else, or the process would end. -/
def usrStep (s : UsrServer) : UsrEvent → Option UsrServer
  | .call t req =>
      match s.threads t with
      | .idle =>
          if req.Admitted then
            match s.findPtr req.usrname with
            | none => notFound s t req
            | some p => some (s.setThread t (.found req p))
          else some s
      | _ => none
  | .access t =>
      match s.threads t with
      | .found req p =>
          match req.access (s.mem p) with
          | .ok info => some ((s.setRecord p info).setThread t (req.next p (s.mem p)))
          | .error _ => none
      | _ => none
  | .store t =>
      match s.threads t with
      | .saved usrInfo p info =>
          some ((s.setRecord p (keepLevelAndPassword usrInfo info)).setThread t (.stored p))
      | _ => none
  | .setUsrInfocb t =>
      match s.threads t with
      | .stored _ => some (s.setThread t .idle)
      | _ => none
  | .delHandle t =>
      match s.threads t with
      | .delHandle p => some ({ s with listHead := s.listHead.erase p }.setThread t (.free p))
      | _ => none
  | .free t =>
      match s.threads t with
      | .free p => some ({ s with allocated := s.allocated.erase p }.setThread t .idle)
      | _ => none
  | .malloc t p =>
      match s.threads t with
      | .checked info =>
          if p ∈ s.allocated then none
          else
            some (({ s with allocated := insert p s.allocated }.setRecord p info).setThread t
              (.createUsrid p))
      | _ => none
  | .candidate t =>
      match s.threads t with
      | .createUsrid p => some (s.setThread t (.candidate p (1000000 + s.i)))
      | _ => none
  | .search t =>
      match s.threads t with
      | .candidate p usrid =>
          match s.findID usrid with
          | none => some ((s.setRecord p { s.mem p with usrID := usrid }).setThread t (.record p))
          | some _ => some (s.setThread t (.taken p))
      | _ => none
  | .increment t =>
      match s.threads t with
      | .taken p => some ({ s with i := s.i + 1 }.setThread t (.createUsrid p))
      | _ => none
  | .addHandle t =>
      match s.threads t with
      | .record p => some ({ s with listHead := s.listHead ++ [p] }.setThread t (.added p))
      | _ => none
  | .addUsrcb t =>
      match s.threads t with
      | .added _ => some (s.setThread t .idle)
      | _ => none

def UsrThreadStep (s : UsrServer) (e : UsrEvent) (s' : UsrServer) : Prop := usrStep s e = some s'

/-- A list in memory, each record at an address of its own, as `InitUsrList` leaves it. -/
structure LoadedList where
  mem : RecPtr → UsrInfo
  ptrs : List RecPtr
  nodup : ptrs.Nodup

def UsrServer.init (l : LoadedList) : UsrServer where
  mem := l.mem
  allocated := l.ptrs.toFinset
  listHead := l.ptrs
  i := 0
  threads _ := .idle

end SmartPlat.UsrManage
