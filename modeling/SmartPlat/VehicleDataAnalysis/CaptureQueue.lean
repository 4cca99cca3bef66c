import SmartPlat.HkSdkManage.Dataprase
import Mathlib.Logic.Function.Basic

set_option autoImplicit false

/-! # The queue of captures: `AddVehicleInfo` and `MemoryDataToDatabasePro`

Camera callbacks put each capture into a record of its own and link it into a list; one thread takes the
records to the database. A record has a mutex, which the callback holds while it fills the record and
links it, and the thread while it works on the record. The thread reads the head of the list, and
removes it when it has worked on it. The functions of the list and of the mutexes are single steps. -/

namespace SmartPlat.VehicleDataAnalysis

open SmartPlat.HkSdkManage

/-! ## The list (`Modules/HandleManage`): the handles of its nodes -/

def handleManageAddHandle (listHead : List ℕ) (handle : ℕ) : List ℕ := listHead ++ [handle]

def handleManageDelHandle (listHead : List ℕ) (handle : ℕ) : List ℕ := listHead.erase handle

def handleManageGetNextHandle (listHead : List ℕ) : Option ℕ := listHead.head?

/-! ## Records and threads -/

/-- Who holds the mutex of a record. -/
inductive Holder where
  | call (k : ℕ)
  | database
  deriving DecidableEq, Repr

/-- `DataAttList_T`: there is no `dataAtt` before `memcpy` is through. `call` records who allocated it. -/
structure DataAttList where
  dataAtt : Option DataAtt
  selfMutex : Option Holder
  call : ℕ
  deriving DecidableEq

/-- Where a call of `AddVehicleInfo` is. -/
inductive CallPc where
  | idle
  /-- The record is allocated and locked, before `memcpy`. -/
  | locked (listInfo : ℕ) (dataInfo : DataAtt)
  /-- Before `HandleManageAddHandle`. -/
  | written (listInfo : ℕ) (dataInfo : DataAtt)
  /-- Before `MUTEX_UNLOCK`. -/
  | added (listInfo : ℕ)
  | returned
  deriving DecidableEq

/-- Where `MemoryDataToDatabasePro` is. -/
inductive DatabasePc where
  /-- Before the test of `gInnerExitFlag` and `HandleManageGetNextHandle`. -/
  | next
  | lock (listInfo : ℕ)
  | process (listInfo : ℕ)
  | del (listInfo : ℕ)
  | unlock (listInfo : ℕ)
  | destroy (listInfo : ℕ)
  | free (listInfo : ℕ)
  | ended
  deriving DecidableEq, Repr

/-- The heap by address, the list, the calls and the thread. `accepted` records what was linked into the
    list, `processed` what the thread found in the records it has worked on. -/
structure CaptureState where
  mem : ℕ → Option DataAttList
  listHead : List ℕ
  calls : ℕ → CallPc
  pc : DatabasePc
  innerExitFlag : Bool
  accepted : List (ℕ × DataAtt)
  processed : List (ℕ × Option DataAtt)

/-- After `VehicleDataAnalysisManageInit`. -/
def captureInit : CaptureState where
  mem := fun _ => none
  listHead := []
  calls := fun _ => .idle
  pc := .next
  innerExitFlag := true
  accepted := []
  processed := []

inductive CaptureEvent where
  | call (k listInfo : ℕ) (dataInfo : DataAtt)
  | write (k : ℕ)
  | add (k : ℕ)
  | unlock (k : ℕ)
  | next
  | lock
  | process
  | del
  | unlockRecord
  | destroy
  | free
  | unInit
  | leave
  deriving DecidableEq

/-- One step of a call, of the thread, or of `VehicleDataAnalysisManageUnInit`. A step that accesses a
    record needs the record to be allocated. -/
inductive CaptureStep : CaptureState → CaptureEvent → CaptureState → Prop
  /-- `malloc`, `memset`, `MUTEX_INIT`, `MUTEX_LOCK` -/
  | call {s : CaptureState} {k listInfo : ℕ} {dataInfo : DataAtt} :
      s.calls k = .idle → s.mem listInfo = none →
        CaptureStep s (.call k listInfo dataInfo) { s with
          mem := Function.update s.mem listInfo (some ⟨none, some (.call k), k⟩)
          calls := Function.update s.calls k (.locked listInfo dataInfo) }
  /-- `memcpy(&listInfo->dataAtt, dataInfo, sizeof(DataAtt_T))` -/
  | write {s : CaptureState} {k listInfo : ℕ} {dataInfo : DataAtt} {r : DataAttList} :
      s.calls k = .locked listInfo dataInfo → s.mem listInfo = some r →
        CaptureStep s (.write k) { s with
          mem := Function.update s.mem listInfo (some { r with dataAtt := some dataInfo })
          calls := Function.update s.calls k (.written listInfo dataInfo) }
  | add {s : CaptureState} {k listInfo : ℕ} {dataInfo : DataAtt} :
      s.calls k = .written listInfo dataInfo →
        CaptureStep s (.add k) { s with
          listHead := handleManageAddHandle s.listHead listInfo
          calls := Function.update s.calls k (.added listInfo)
          accepted := s.accepted ++ [(k, dataInfo)] }
  | unlock {s : CaptureState} {k listInfo : ℕ} {r : DataAttList} :
      s.calls k = .added listInfo → s.mem listInfo = some r →
        CaptureStep s (.unlock k) { s with
          mem := Function.update s.mem listInfo (some { r with selfMutex := none })
          calls := Function.update s.calls k .returned }
  | next {s : CaptureState} :
      s.pc = .next → s.innerExitFlag = true →
        CaptureStep s .next { s with
          pc := match handleManageGetNextHandle s.listHead with
            | none => .next
            | some handle => .lock handle }
  | lock {s : CaptureState} {listInfo : ℕ} {r : DataAttList} :
      s.pc = .lock listInfo → s.mem listInfo = some r → r.selfMutex = none →
        CaptureStep s .lock { s with
          mem := Function.update s.mem listInfo (some { r with selfMutex := some .database })
          pc := .process listInfo }
  /-- Everything between the lock and `HandleManageDelHandle`. -/
  | process {s : CaptureState} {listInfo : ℕ} {r : DataAttList} :
      s.pc = .process listInfo → s.mem listInfo = some r →
        CaptureStep s .process { s with
          pc := .del listInfo
          processed := s.processed ++ [(r.call, r.dataAtt)] }
  | del {s : CaptureState} {listInfo : ℕ} :
      s.pc = .del listInfo →
        CaptureStep s .del { s with
          pc := .unlock listInfo
          listHead := handleManageDelHandle s.listHead listInfo }
  | unlockRecord {s : CaptureState} {listInfo : ℕ} {r : DataAttList} :
      s.pc = .unlock listInfo → s.mem listInfo = some r →
        CaptureStep s .unlockRecord { s with
          mem := Function.update s.mem listInfo (some { r with selfMutex := none })
          pc := .destroy listInfo }
  | destroy {s : CaptureState} {listInfo : ℕ} {r : DataAttList} :
      s.pc = .destroy listInfo → s.mem listInfo = some r → r.selfMutex = none →
        CaptureStep s .destroy { s with pc := .free listInfo }
  | free {s : CaptureState} {listInfo : ℕ} {r : DataAttList} :
      s.pc = .free listInfo → s.mem listInfo = some r →
        CaptureStep s .free { s with mem := Function.update s.mem listInfo none, pc := .next }
  | unInit {s : CaptureState} : CaptureStep s .unInit { s with innerExitFlag := false }
  | leave {s : CaptureState} :
      s.pc = .next → s.innerExitFlag = false → CaptureStep s .leave { s with pc := .ended }

/-- The record a call still accesses. -/
def CallPc.record : CallPc → Option ℕ
  | .locked listInfo _ | .written listInfo _ | .added listInfo => some listInfo
  | .idle | .returned => none

/-- The record the thread still accesses. -/
def DatabasePc.record : DatabasePc → Option ℕ
  | .lock listInfo | .process listInfo | .del listInfo | .unlock listInfo | .destroy listInfo
  | .free listInfo => some listInfo
  | .next | .ended => none

end SmartPlat.VehicleDataAnalysis
