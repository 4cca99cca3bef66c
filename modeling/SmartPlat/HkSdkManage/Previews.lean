import SmartPlat.HkSdkManage.Devices
import SmartPlat.HkSdkManage.Stream
import SmartPlat.Lib.Transition

set_option autoImplicit false

/-! # Previews while NVRs come and go

The registry of the NVRs and the callback together. Beside what the code has, the state keeps which
channel opened each preview that is in progress, and from which preview each cached payload came;
neither has an influence on the code. -/

namespace SmartPlat.HkSdkManage

open SmartPlat.Lib

/-- A preview in progress: its handle, the login it was opened on, and the channel that opened it with
    the queue it got, negative if it got none. -/
structure Preview where
  lRealPlayHandle : ℤ
  lUserID : ℤ
  lChannel : ℤ
  lqueueId : ℤ
  deriving DecidableEq

/-- The handle as the registry counts it. -/
abbrev Preview.held (v : Preview) : Held := .realPlay v.lRealPlayHandle v.lUserID

/-- What the loop over the channels opens, up to the channel that gets no queue. -/
def openedChannels (re : Replies) : List (Fin netIpcMaxNum) → List Preview
  | [] => []
  | i :: rest =>
      if re.IpcamCfg.online i = 0 then openedChannels re rest
      else
        (if re.lRealPlayHandle i < 0 then []
        else [⟨re.lRealPlayHandle i, re.lUserID, i + 1, re.queueid i⟩]) ++
          if re.queueid i < 0 then [] else openedChannels re rest

/-- What a `HksdkDeviceAdd` opens. -/
def opened (reg : Records) (devInfo : Option HKDVRParam) (re : Replies) : List Preview :=
  match devInfo with
  | none => []
  | some d =>
      if re.lUserID < 0 ∨ reg.isAdded id d then []
      else openedChannels re (channelsOf re.IpcamCfg)

/-- The registry, the cache of the callback, the previews in progress, and where the payloads in each
    row of the cache came from. -/
structure Streaming where
  reg : Records
  fd : FrameFd
  previews : List Preview
  sources : ℤ → List Preview

/-- When the lists have been set up, with any configuration. -/
def Streaming.init (Dvrlist : Option (List DvrConf)) : Streaming :=
  ⟨.init _ _ Dvrlist, .zero, [], fun _ => []⟩

inductive StreamEvent where
  | deviceAdd (devInfo : Option HKDVRParam) (re : Replies) (junk : ℕ → DvrString)
  | deviceDel (devInfo : Option HKDVRParam) (junk : ℕ → DvrString)
  /-- The SDK delivers a packet of a preview. -/
  | packet (v : Preview) (p : Packet)

/-- Two entries are one handle. -/
def Held.same : Held → Held → Bool
  | .login u, .login u' => u = u'
  | .realPlay h _, .realPlay h' _ => h = h'
  | .queue q _, .queue q' _ => q = q'
  | _, _ => false

/-- The SDK and the media queue give out no handle that is in use. -/
def Distinct (held : List Held) : Prop := held.Pairwise fun x y => x.same y = false

instance (held : List Held) : Decidable (Distinct held) :=
  inferInstanceAs (Decidable (held.Pairwise _))

/-- What the code does at an event. -/
def Streaming.handle (s : Streaming) : StreamEvent → Except Fault Streaming
  | .deviceAdd devInfo re junk =>
      (hksdkDeviceAdd id (fun l => (l.dvrInfo, l.HkDvrInfo)) s.reg devInfo re junk).map fun r =>
        { s with reg := r.2, previews := s.previews ++ opened s.reg devInfo re }
  | .deviceDel devInfo junk =>
      (hksdkDeviceDel id id s.reg devInfo junk).map fun r =>
        { s with reg := r.2, previews := s.previews.filter fun v => v.held ∈ r.2.held }
  | .packet v p =>
      (gRealDataCallBackV30 s.reg.dvrlistHead v.lRealPlayHandle p s.fd).map fun r =>
        let before := (s.fd v.lRealPlayHandle).m_mFrameCacheLenth
        let after := (r.1 v.lRealPlayHandle).m_mFrameCacheLenth
        { s with
          fd := r.1
          sources := Function.update s.sources v.lRealPlayHandle
            (if before < after then s.sources v.lRealPlayHandle ++ [v]
            else (s.sources v.lRealPlayHandle).take after) }

/-- An event that can happen: packets come on previews in progress, and the handles of a
    `HksdkDeviceAdd` are not in use. -/
def Streaming.Possible (s : Streaming) : StreamEvent → Prop
  | .deviceAdd devInfo re junk =>
      ∀ s', s.handle (.deviceAdd devInfo re junk) = .ok s' → Distinct s'.reg.held
  | .deviceDel _ _ => True
  | .packet v _ => v ∈ s.previews

def Streaming.step (s : Streaming) (e : StreamEvent) (s' : Streaming) : Prop :=
  s.Possible e ∧ s.handle e = .ok s'

/-! ## The property -/

/-- What is to hold of an event. An add touches no stream, and each of its previews gets a row of the
    cache without packets of others; a delete that succeeds closes the previews and queues that were
    opened on the login of the record it finds, and no others; a packet goes to the row of its
    preview, and a frame goes to the queue of the channel. -/
def Streaming.Routes (s : Streaming) : StreamEvent → Prop
  | .deviceAdd devInfo re junk =>
      match hksdkDeviceAdd id (fun l => (l.dvrInfo, l.HkDvrInfo)) s.reg devInfo re junk with
      | .error _ => False
      | .ok (_, reg') => s.reg.held <+: reg'.held ∧
          ∀ v ∈ opened s.reg devInfo re, s.sources v.lRealPlayHandle = []
  | .deviceDel devInfo junk =>
      match hksdkDeviceDel id id s.reg devInfo junk with
      | .error _ => False
      | .ok (code, reg') =>
          if code = keyTrue then
            ∃ p d, devInfo = some p ∧
              lookup HkSdkDeviceInfo.lDvrSerialNumber p.serial s.reg.dvrlistHead = some d ∧
              ∀ x, x.isStream → (x ∈ reg'.held ↔ x ∈ s.reg.held ∧ x.lUserID ≠ d.lUserID)
          else reg'.held = s.reg.held
  | .packet v p =>
      match gRealDataCallBackV30 s.reg.dvrlistHead v.lRealPlayHandle p s.fd with
      | .error _ => False
      | .ok (fd', pushed) =>
          (∀ h, h ≠ v.lRealPlayHandle → fd' h = s.fd h) ∧
            ∀ f ∈ pushed, f.queueid = v.lqueueId ∧
              ∀ w ∈ s.sources v.lRealPlayHandle, w.lqueueId = f.queueid

/-! ## When it holds -/

/-- A slot of the record was never filled in: it reads handle and queue `0`. -/
def HkSdkDeviceInfo.HasUnused (d : HkSdkDeviceInfo) : Prop := ∃ i, d.lChannel i = 0

instance (d : HkSdkDeviceInfo) : Decidable d.HasUnused := inferInstanceAs (Decidable (∃ _, _))

/-- The callback looks at the record. -/
abbrev HkSdkDeviceInfo.Searched (d : HkSdkDeviceInfo) : Prop := d.lDvrSerialNumber.str.strlen > 0

/-- The NVR of the preview is in the list, with a serial number. -/
def Preview.Listed (v : Preview) (l : List HkSdkDeviceInfo) : Prop :=
  ∃ d ∈ l, d.Searched ∧ d.lUserID = v.lUserID

/-- The handle is `0`, and an NVR with an unused slot is in the list and the NVR of the preview not
    after it. -/
def Preview.Diverted (v : Preview) (l : List HkSdkDeviceInfo) : Prop :=
  v.lRealPlayHandle = 0 ∧ ∃ pre d post, l = pre ++ d :: post ∧ d.Searched ∧ d.HasUnused ∧
    d.lUserID ≠ v.lUserID ∧ ¬ v.Listed post

/-- The payloads in the cache, in order. -/
def FrameCache.payloads (cache : FrameCache) : List (List UInt8) :=
  (List.range cache.m_mFrameCacheLenth).map fun i =>
    ((cache.m_pFrameCache i).pCacheBuffer.map HeapBuffer.bytes).getD []

end SmartPlat.HkSdkManage
