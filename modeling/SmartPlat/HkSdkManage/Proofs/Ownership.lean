import SmartPlat.HkSdkManage.Devices
import SmartPlat.HkSdkManage.Storage

set_option autoImplicit false

/-! # Who owns the records of the NVRs

As long as no `HksdkDeviceAdd` gets as far as linking its records the lists stay empty. The first one
that does leaves pointers to storage that is released when it returns. -/

namespace SmartPlat.HkSdkManage

open SmartPlat.Lib

/-! ## The loop over the channels of an NVR -/

/-- A queue is created for every channel that is online. -/
def Replies.Queued (re : Replies) : Prop :=
  ∀ i ∈ channelsOf re.IpcamCfg, re.IpcamCfg.online i ≠ 0 → 0 ≤ re.queueid i

instance (re : Replies) : Decidable re.Queued :=
  inferInstanceAs (Decidable (∀ i ∈ channelsOf re.IpcamCfg, _ → _))

variable {re : Replies} {devInfo : HKDVRParam} {found : Bool}

theorem addChannels_eq_true_iff {is : List (Fin netIpcMaxNum)} {l : AddLocals} :
    (addChannels re is l).1 = true ↔ ∀ i ∈ is, re.IpcamCfg.online i ≠ 0 → 0 ≤ re.queueid i := by
  induction is generalizing l with
  | nil => simp [addChannels]
  | cons i rest ih =>
      rw [addChannels, List.forall_mem_cons]
      by_cases hoff : re.IpcamCfg.online i = 0
      · rw [if_pos hoff, ih]
        simp [hoff]
      · rw [if_neg hoff]
        by_cases hq : re.queueid i < 0
        · rw [if_pos hq]
          simp [hoff, hq]
        · rw [if_neg hq, ih]
          simp [hoff, Int.not_lt.1 hq]

/-- `HksdkDeviceAdd` links its records when the login succeeds, the NVR is not found and no queue
    fails. -/
theorem registers_iff : (∃ l, hksdkDeviceAddEnd found devInfo re = .registers l) ↔
    0 ≤ re.lUserID ∧ found = false ∧ re.Queued := by
  rw [Replies.Queued, ← addChannels_eq_true_iff (l := addLocals devInfo re), hksdkDeviceAddEnd]
  by_cases hlogin : re.lUserID < 0
  · rw [if_pos hlogin]
    simp [hlogin]
  · rw [if_neg hlogin]
    have hlogin' := Int.not_lt.1 hlogin
    cases found with
    | true => simp
    | false =>
        rw [if_neg Bool.false_ne_true]
        rcases hadd : addChannels re (channelsOf re.IpcamCfg) (addLocals devInfo re) with ⟨b, l⟩
        cases b <;> simp [hlogin']

/-! ## What the loop leaves -/

/-- What a channel acquires. -/
def channelHeld (re : Replies) (i : Fin netIpcMaxNum) : List Held :=
  if re.IpcamCfg.online i = 0 then []
  else acquired (.realPlay · re.lUserID) (re.lRealPlayHandle i) ++ [.queue (re.queueid i) re.lUserID]

/-- A slot of channel `i`: `-1` for a channel that is offline. -/
def channelSlot (re : Replies) (handle : Fin netIpcMaxNum → ℤ) (i : Fin netIpcMaxNum) : ℤ :=
  if re.IpcamCfg.online i = 0 then -1 else handle i

/-- The loop acquires what its channels acquire, channel by channel, and fills in their slots. -/
theorem addChannels_spec {is : List (Fin netIpcMaxNum)} {l l' : AddLocals}
    (h : addChannels re is l = (true, l')) :
    l'.dvrInfo.lUserID = l.dvrInfo.lUserID ∧ l'.dvrInfo.lhandle = l.dvrInfo.lhandle ∧
      l'.held = l.held ++ is.flatMap (channelHeld re) ∧
      ∀ i, l'.dvrInfo.lRealPlayHandle i =
          (if i ∈ is then channelSlot re re.lRealPlayHandle i else l.dvrInfo.lRealPlayHandle i) ∧
        l'.dvrInfo.lqueueId i =
          (if i ∈ is then channelSlot re re.queueid i else l.dvrInfo.lqueueId i) ∧
        l'.dvrInfo.lChannel i =
          (if i ∈ is then channelSlot re (fun i => i + 1) i else l.dvrInfo.lChannel i) := by
  induction is generalizing l with
  | nil =>
      cases h
      simp
  | cons j rest ih =>
      rw [addChannels] at h
      by_cases hoff : re.IpcamCfg.online j = 0
      · rw [if_pos hoff] at h
        obtain ⟨huser, hlisten, hheld, hslots⟩ := ih h
        refine ⟨huser, hlisten, ?_, fun i => ?_⟩
        · rw [hheld, List.flatMap_cons, channelHeld, if_pos hoff]
          rfl
        · obtain ⟨hplay, hqueue, hchannel⟩ := hslots i
          rw [hplay, hqueue, hchannel]
          by_cases hij : i = j
          · subst hij
            simp [AddLocals.setChannel, channelSlot, hoff]
          · simp [AddLocals.setChannel, hij]
      · rw [if_neg hoff] at h
        split at h
        · cases h
        · obtain ⟨huser, hlisten, hheld, hslots⟩ := ih h
          refine ⟨huser, hlisten, ?_, fun i => ?_⟩
          · rw [hheld, List.flatMap_cons, channelHeld, if_neg hoff]
            simp only [List.append_assoc]
          · obtain ⟨hplay, hqueue, hchannel⟩ := hslots i
            rw [hplay, hqueue, hchannel]
            by_cases hij : i = j
            · subst hij
              simp [AddLocals.setChannel, channelSlot, hoff]
            · simp [AddLocals.setChannel, hij]

/-- Wherever the loop stops, it has given nothing back. -/
theorem addChannels_prefix (re : Replies) (is : List (Fin netIpcMaxNum)) (l : AddLocals) :
    l.held <+: (addChannels re is l).2.held := by
  induction is generalizing l with
  | nil => exact List.prefix_rfl
  | cons i rest ih =>
      rw [addChannels]
      split
      · exact ih (l.setChannel re.IpcamCfg i (-1) (-1) (-1))
      · dsimp only
        split
        · exact List.prefix_append _ _
        · refine List.IsPrefix.trans ?_ (ih _)
          show l.held <+: l.held ++ _ ++ _
          rw [List.append_assoc]
          exact List.prefix_append _ _

/-! ## An NVR without cameras -/

/-- A serial number of one letter. -/
def letter (b : UInt8) : DvrString := snprintf _ (.ofBuffer [b])

/-- An NVR without cameras answers with this login and serial number. -/
def bareNvr (lUserID : ℤ) (serial : DvrString) : Replies where
  lUserID
  sSerialNumber := serial
  lHandle := 0
  customerFDID := emptyArray _
  workersFDID := emptyArray _
  IpcamCfg := ⟨0, 0, fun _ => ⟨0, 0, 0⟩, fun _ => emptyArray _, Nat.zero_le _⟩
  lRealPlayHandle := fun _ => 0
  queueid := fun _ => 0

/-- A request for the NVR with this serial number. -/
def requestOf (serial : DvrString) : HKDVRParam :=
  { HKDVRParam.zero with HkDvrInfo := { HkDeviceInfo.zero with sDvrSerialNumber := serial } }

/-! ## Calls that do not link -/

variable {s s' : Program} {c : Call} {μ : Storage} {Dvrlist : Option (List DvrConf)}

/-- The call does not link records: the login fails, the NVR is found in the list, or the queue of a
    channel is not created. -/
def Program.Unlinked (s : Program) : Call → Prop
  | .deviceAdd (some devInfo) re _ f =>
      re.lUserID < 0 ∨ s.reg.isAdded (s.μ.zeroed f).dvrParam devInfo ∨ ¬ re.Queued
  | _ => True

instance (s : Program) : (c : Call) → Decidable (s.Unlinked c)
  | .deviceAdd (some _) _ _ _ => inferInstanceAs (Decidable (_ ∨ _ ∨ _))
  | .deviceAdd none _ _ _ | .deviceDel _ _ | .deviceListSet _ _ | .deviceListGet | .other _ =>
      .isTrue trivial

theorem unlinked_iff {devInfo : HKDVRParam} {re : Replies} {junk : ℕ → DvrString} {f : Frame} :
    s.Unlinked (.deviceAdd (some devInfo) re junk f) ↔
      ¬ ∃ l, hksdkDeviceAddEnd (s.reg.isAdded (s.μ.zeroed f).dvrParam devInfo) devInfo re =
        .registers l := by
  rw [registers_iff, Program.Unlinked, ← Int.not_le, not_and_or, not_and_or,
    Bool.not_eq_false]

theorem addEnd_returns {devInfo : HKDVRParam} {re : Replies} {found : Bool}
    (h : ¬ ∃ l, hksdkDeviceAddEnd found devInfo re = .registers l) :
    ∃ code held cameras, hksdkDeviceAddEnd found devInfo re = .returns code held cameras := by
  cases hend : hksdkDeviceAddEnd found devInfo re with
  | returns code held cameras => exact ⟨code, held, cameras, rfl⟩
  | registers l => exact absurd ⟨l, hend⟩ h

/-! ## Empty lists -/

section

variable {ι κ : Type} {param : κ → HKDVRParam} {info : ι → HkSdkDeviceInfo}

def Registry.Empty (reg : Registry ι κ) : Prop := reg.dvrlistHead = [] ∧ reg.deviceListHead = []

theorem Registry.Empty.not_isAdded {reg : Registry ι κ} (h : reg.Empty) (devInfo : HKDVRParam) :
    reg.isAdded param devInfo = false := by
  rw [Registry.isAdded, h.2]
  rfl

/-- An add that does not link records leaves the lists as they are. -/
theorem Registry.Empty.add {reg reg' : Registry ι κ} {link : AddLocals → ι × κ}
    {devInfo : Option HKDVRParam} {re : Replies} {junk : ℕ → DvrString} {code : ℤ} (h : reg.Empty)
    (hend : ∀ d, devInfo = some d →
      ¬ ∃ l, hksdkDeviceAddEnd (reg.isAdded param d) d re = .registers l)
    (hadd : hksdkDeviceAdd param link reg devInfo re junk = .ok (code, reg')) : reg'.Empty := by
  cases devInfo with
  | none =>
      cases hadd
      exact h
  | some d =>
      obtain ⟨_, _, _, hret⟩ := addEnd_returns (hend d rfl)
      rw [hksdkDeviceAdd, hret] at hadd
      cases hadd
      exact h

theorem Registry.Empty.del {reg reg' : Registry ι κ} {devInfo : Option HKDVRParam}
    {junk : ℕ → DvrString} {code : ℤ} (h : reg.Empty)
    (hdel : hksdkDeviceDel info param reg devInfo junk = .ok (code, reg')) : reg'.Empty := by
  cases devInfo with
  | none =>
      cases hdel
      exact h
  | some d =>
      rw [hksdkDeviceDel, h.not_isAdded, if_neg Bool.false_ne_true] at hdel
      cases hdel
      exact h

end

/-- The lists and what they are to hold are empty. -/
def Program.Empty (s : Program) : Prop := s.reg.Empty ∧ s.asAdded.Empty

theorem Program.Empty.owned (h : s.Empty) : s.Owned where
  live := by simp [h.1.1, h.1.2]
  unshared := by simp [h.1.1, h.1.2]
  online := by rw [h.1.1, h.2.1, List.map_nil]
  params := by rw [h.1.2, h.2.2, List.map_nil]

theorem Program.Empty.specStep (h : s.Empty) (hc : s.Unlinked c) :
    (specStep s.asAdded c).Empty := by
  cases c with
  | deviceAdd devInfo re junk f =>
      rw [HkSdkManage.specStep]
      split
      · next hadd =>
          refine h.2.add (fun d hd => ?_) hadd
          subst hd
          rw [unlinked_iff, h.1.not_isAdded] at hc
          rwa [h.2.not_isAdded]
      · exact h.2
  | deviceDel devInfo junk =>
      rw [HkSdkManage.specStep]
      split
      · next hdel => exact h.2.del hdel
      · exact h.2
  | deviceListSet dvrParam junk =>
      refine ⟨h.2.1, ?_⟩
      rw [HkSdkManage.specStep, Registry.setRecord, h.2.2]
      rfl
  | deviceListGet => exact h.2
  | other μ => exact h.2

theorem Program.after_eq_some {α : Type} {r : Except Fault (α × Registry Address Address)}
    (h : s.after c μ r = some s') :
    ∃ a reg, r = .ok (a, reg) ∧ s' = ⟨μ, reg, HkSdkManage.specStep s.asAdded c⟩ := by
  cases r with
  | error e => cases h
  | ok x =>
      cases h
      exact ⟨x.1, x.2, rfl, rfl⟩

/-- Calls that do not link records keep the lists empty. -/
theorem Program.Empty.step (h : s.Empty) (hc : s.Unlinked c) (hs : step s c s') : s'.Empty := by
  have hspec := h.specStep hc
  rw [HkSdkManage.step, stepFn.eq_def] at hs
  cases c with
  | deviceAdd devInfo re junk f =>
      simp only at hs
      split at hs
      · obtain ⟨code, reg, hadd, rfl⟩ := after_eq_some hs
        refine ⟨h.1.add (fun d hd => ?_) hadd, hspec⟩
        subst hd
        exact unlinked_iff.1 hc
      · cases hs
  | deviceDel devInfo junk =>
      obtain ⟨code, reg, hdel, rfl⟩ := after_eq_some hs
      exact ⟨h.1.del hdel, hspec⟩
  | deviceListSet dvrParam junk =>
      have hnone : hksdkDeviceListSet s.μ.dvrParam s.reg dvrParam junk = .ok (keyFalse, s.reg, none) := by
        rw [hksdkDeviceListSet, h.1.2]
        rfl
      simp only [hnone] at hs
      obtain ⟨code, reg, hset, rfl⟩ := after_eq_some hs
      cases hset
      exact ⟨h.1, hspec⟩
  | deviceListGet =>
      obtain ⟨code, reg, hget, rfl⟩ := after_eq_some hs
      cases hget
      exact ⟨h.1, hspec⟩
  | other μ =>
      simp only at hs
      split at hs
      · obtain ⟨code, reg, hother, rfl⟩ := after_eq_some hs
        cases hother
        exact ⟨h.1, hspec⟩
      · cases hs

/-! ## Linked records -/

/-- A call that links records leaves a pointer to released storage in the list. -/
theorem not_owned_of_linked (hs : step s c s') (hc : ¬ s.Unlinked c) : ¬ s'.Owned := by
  intro howned
  cases c with
  | deviceAdd devInfo re junk f =>
      cases devInfo with
      | none => exact hc trivial
      | some d =>
          rw [unlinked_iff, not_not] at hc
          obtain ⟨l, hend⟩ := hc
          rw [step, stepFn.eq_def] at hs
          simp only at hs
          split at hs
          · next hfits =>
              obtain ⟨code, reg, hadd, rfl⟩ := Program.after_eq_some hs
              rw [hksdkDeviceAdd, hend] at hadd
              obtain ⟨conf, -, hreg⟩ := map_eq_ok_iff.1 hadd
              cases hreg
              refine hfits.2.1 (howned.live f.dvrInfo ?_)
              simp
          · cases hs
  | deviceDel => exact hc trivial
  | deviceListSet => exact hc trivial
  | deviceListGet => exact hc trivial
  | other => exact hc trivial

theorem step_deterministic (s : Program) (c : Call) (s₁ s₂ : Program) (h₁ : step s c s₁)
    (h₂ : step s c s₂) : s₁ = s₂ :=
  Option.some.inj (h₁.symm.trans h₂)

/-- **The registry owns its records** in every state of a run exactly when no call of the run links
    records. -/
theorem registry_owned {tr : List Call} (h : Run step (.init μ Dvrlist) tr s) :
    (∀ pre s₁, pre <+: tr → Run step (.init μ Dvrlist) pre s₁ → s₁.Owned) ↔
      Run (stepWhen Program.Unlinked step) (.init μ Dvrlist) tr s :=
  Run.always_iff Program.Empty step_deterministic ⟨⟨rfl, rfl⟩, ⟨rfl, rfl⟩⟩ (fun _ hI => hI.owned)
    (fun _ _ _ hI hc hs => hI.step hc hs) (fun _ _ _ _ hc hs => not_owned_of_linked hs hc) h

/-- Nothing is allocated, and every record reads as zero. -/
def blankStorage : Storage := ⟨∅, fun _ => .zero, fun _ => .zero⟩

/-- A login that fails, and requests for an NVR that is not there. -/
def refusedCalls : List Call :=
  [.deviceAdd (some (requestOf (letter 65))) (bareNvr (-1) (letter 65))
      (fun _ => emptyArray _) ⟨0, 1⟩,
    .deviceListSet (requestOf (letter 65)) (fun _ => emptyArray _),
    .deviceDel (some (requestOf (letter 65))) (fun _ => emptyArray _), .deviceListGet]

theorem registry_owned_refused : ∃ s, Run step (.init blankStorage (some [])) refusedCalls s ∧ s.Owned := by
  obtain ⟨s, hrun, -⟩ : ∃ s,
      Run (stepWhen Program.Unlinked step) (.init blankStorage (some [])) refusedCalls s ∧ True :=
    Run.exists_of_eval (stepWhen_of_eval fun _ _ _ h => h) (by decide)
  have hrun' : Run step (.init blankStorage (some [])) refusedCalls s := hrun.mono fun _ _ _ hs => hs.2
  exact ⟨s, hrun', (registry_owned hrun').2 hrun refusedCalls s List.prefix_rfl hrun'⟩

/-- Two NVRs are added from the same place of the program. -/
def twoAdds : List Call :=
  [.deviceAdd (some (requestOf (letter 65))) (bareNvr 0 (letter 65))
      (fun _ => emptyArray _) ⟨0, 1⟩,
    .deviceAdd (some (requestOf (letter 66))) (bareNvr 1 (letter 66))
      (fun _ => emptyArray _) ⟨0, 1⟩]

/-- Both entries of each list point to the variables of the second call. -/
theorem second_add_shares_storage :
    ∃ s, Run step (.init blankStorage (some [])) twoAdds s ∧ ¬ s.Owned := by
  obtain ⟨s, hrun, hshared⟩ : ∃ s, Run step (.init blankStorage (some [])) twoAdds s ∧
      (s.reg.dvrlistHead = [0, 0] ∧ s.reg.deviceListHead = [1, 1]) :=
    Run.exists_of_eval (fun _ _ _ h => h) (by decide)
  refine ⟨s, hrun, fun howned => ?_⟩
  have hnodup := howned.unshared
  rw [hshared.1, hshared.2] at hnodup
  exact absurd hnodup (by decide)

end SmartPlat.HkSdkManage
