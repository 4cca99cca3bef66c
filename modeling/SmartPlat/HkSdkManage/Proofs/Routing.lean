import SmartPlat.HkSdkManage.Previews
import SmartPlat.HkSdkManage.Proofs.Resources
import SmartPlat.HkSdkManage.Proofs.Reassembly

set_option autoImplicit false

/-! # Packets find their queue

A record names the previews and queues of its login, and beyond them, in the slots that were never
filled in, preview and queue `0`. As long as these belong to the same login or to nobody, deleting the
NVR closes what is its own; and the callback goes wrong about handle `0` alone. -/

namespace SmartPlat.HkSdkManage

open SmartPlat.Lib

/-! ## When the code can follow -/

/-- The callback handles the packet within its table and buffers, with these payloads in the row of the
    handle. -/
def Packet.InBounds (lRealHandle : ℤ) (since : List (List UInt8)) (p : Packet) : Prop :=
  p.dwDataType = netDvrStreamdata →
    (0 ≤ lRealHandle ∧ lRealHandle < netIpcMaxNum) ∧ since.length < maxFrameLenth ∧
      (p.pBuffer.length < 2 ^ 31 →
        ¬ p.Truncated ∧ (p.IsPackHeader → since.flatten.length ≤ since.length * maxPackSize))

/-- The packet completes a frame that is pushed. -/
def Packet.Completes (since : List (List UInt8)) (p : Packet) : Prop :=
  p.IsPackHeader ∧ p.pBuffer.length < 2 ^ 31 ∧ since.flatten ≠ []

/-- What must hold before an event. An add finds a configuration no longer than the array it is read
    into, and the rows of its new handles empty. A delete finds an unused slot in the record only if
    preview and queue `0` are not of another login. A packet that is not ignored stays in bounds, and
    when it is diverted it completes no frame, or its queue is `0` as well. -/
def Streaming.Safe (s : Streaming) : StreamEvent → Prop
  | .deviceAdd devInfo re _ =>
      ∀ d, devInfo = some d → 0 ≤ re.lUserID → s.reg.isAdded id d = false →
        (re.Queued → DvrlistFits s.reg.Dvrlist) ∧
          ∀ v ∈ openedChannels re (channelsOf re.IpcamCfg),
            (s.fd v.lRealPlayHandle).m_mFrameCacheLenth = 0
  | .deviceDel devInfo _ =>
      ∀ p d, devInfo = some p → s.reg.isAdded id p = true →
        lookup HkSdkDeviceInfo.lDvrSerialNumber p.serial s.reg.dvrlistHead = some d →
          DvrlistFits s.reg.Dvrlist ∧
            (d.HasUnused → (∀ u, .realPlay 0 u ∈ s.reg.held → u = d.lUserID) ∧
              ∀ u, .queue 0 u ∈ s.reg.held → u = d.lUserID)
  | .packet v p =>
      v.Listed s.reg.dvrlistHead ∨ v.Diverted s.reg.dvrlistHead →
        p.InBounds v.lRealPlayHandle (s.fd v.lRealPlayHandle).payloads ∧
          (v.Diverted s.reg.dvrlistHead → v.lqueueId ≠ 0 →
            ¬ p.Completes (s.fd v.lRealPlayHandle).payloads)

/-! ## Distinct handles -/

theorem Held.same_comm (x y : Held) : x.same y = y.same x := by
  cases x <;> cases y <;> simp [Held.same, eq_comm]

instance : Std.Symm fun x y : Held => x.same y = false :=
  ⟨fun x y hxy => by rwa [Held.same_comm]⟩

variable {held : List Held} {previews : List Preview}

theorem Distinct.eq (h : Distinct held) {x y : Held} (hx : x ∈ held) (hy : y ∈ held)
    (hxy : x.same y = true) : x = y := by
  by_contra hne
  have hdiff := List.Pairwise.forall h hx hy hne
  rw [hdiff] at hxy
  cases hxy

theorem Distinct.filter (h : Distinct held) (p : Held → Bool) : Distinct (held.filter p) :=
  h.sublist List.filter_sublist

/-! ## What an add opens -/

/-- A preview, as the registry counts it. -/
def Held.isPlay : Held → Bool
  | .realPlay _ _ => true
  | .login _ | .alarm _ _ | .queue _ _ => false

theorem filter_isPlay_acquired (u h : ℤ) :
    (acquired (.realPlay · u) h).filter Held.isPlay = acquired (.realPlay · u) h := by
  unfold acquired
  split <;> rfl

/-- Wherever the loop stops, it has opened the previews, and all it has acquired is on the login. -/
theorem addChannels_held (re : Replies) (is : List (Fin netIpcMaxNum)) (l : AddLocals) :
    ∃ new, (addChannels re is l).2.held = l.held ++ new ∧ (∀ x ∈ new, x.lUserID = re.lUserID) ∧
      new.filter Held.isPlay = (openedChannels re is).map Preview.held := by
  induction is generalizing l with
  | nil => exact ⟨[], (List.append_nil _).symm, List.forall_mem_nil _, rfl⟩
  | cons i rest ih =>
      rw [addChannels, openedChannels]
      by_cases hoff : re.IpcamCfg.online i = 0
      · rw [if_pos hoff, if_pos hoff]
        exact ih (l.setChannel re.IpcamCfg i (-1) (-1) (-1))
      · rw [if_neg hoff, if_neg hoff]
        have hplayed : (acquired (.realPlay · re.lUserID) (re.lRealPlayHandle i)) =
            List.map Preview.held (if re.lRealPlayHandle i < 0 then []
              else [⟨re.lRealPlayHandle i, re.lUserID, i + 1, re.queueid i⟩]) := by
          unfold acquired
          split <;> rfl
        have huser : ∀ x ∈ acquired (.realPlay · re.lUserID) (re.lRealPlayHandle i),
            x.lUserID = re.lUserID := by
          unfold acquired
          split <;> simp [Held.lUserID]
        dsimp only
        by_cases hq : re.queueid i < 0
        · rw [if_pos hq, if_pos hq, List.append_nil, ← hplayed]
          exact ⟨_, rfl, huser, filter_isPlay_acquired _ _⟩
        · rw [if_neg hq, if_neg hq, List.map_append, ← hplayed]
          obtain ⟨new, hnew, hall, hplays⟩ := ih
            { l.setChannel re.IpcamCfg i (i + 1) (re.queueid i) (re.lRealPlayHandle i) with
              held := l.held ++ acquired (.realPlay · re.lUserID) (re.lRealPlayHandle i) ++
                [.queue (re.queueid i) re.lUserID]
              cameras := l.cameras ++
                [{ wChannel := i + 1
                   wQueueID := re.queueid i
                   sDvrSerialNumber := l.HkDvrInfo.HkDvrInfo.sDvrSerialNumber }] }
          refine ⟨acquired (.realPlay · re.lUserID) (re.lRealPlayHandle i) ++
            [.queue (re.queueid i) re.lUserID] ++ new, ?_, ?_, ?_⟩
          · rw [hnew]
            simp only [List.append_assoc]
          · intro x hx
            rcases List.mem_append.1 hx with hx | hx
            · rcases List.mem_append.1 hx with hx | hx
              · exact huser x hx
              · rw [List.mem_singleton.1 hx]
                rfl
            · exact hall x hx
          · rw [List.filter_append, List.filter_append, filter_isPlay_acquired, hplays]
            simp [Held.isPlay]

/-- All previews that are opened have the login and a handle. -/
theorem mem_openedChannels {re : Replies} {is : List (Fin netIpcMaxNum)} {v : Preview}
    (h : v ∈ openedChannels re is) :
    ∃ i ∈ is, re.IpcamCfg.online i ≠ 0 ∧ 0 ≤ re.lRealPlayHandle i ∧
      v = ⟨re.lRealPlayHandle i, re.lUserID, i + 1, re.queueid i⟩ := by
  induction is with
  | nil => cases h
  | cons i rest ih =>
      rw [openedChannels] at h
      have hrest : v ∈ openedChannels re rest → ∃ j ∈ i :: rest, re.IpcamCfg.online j ≠ 0 ∧
          0 ≤ re.lRealPlayHandle j ∧ v = ⟨re.lRealPlayHandle j, re.lUserID, j + 1, re.queueid j⟩ := by
        intro h'
        obtain ⟨j, hj, hspec⟩ := ih h'
        exact ⟨j, List.mem_cons_of_mem _ hj, hspec⟩
      split at h
      · exact hrest h
      · next hon =>
          rcases List.mem_append.1 h with h | h
          · split at h
            · cases h
            · next hplay =>
                exact ⟨i, List.mem_cons_self, hon, Int.not_lt.1 hplay, List.mem_singleton.1 h⟩
          · split at h
            · cases h
            · exact hrest h

/-- When every channel gets its queue, every channel that is online and played is there. -/
theorem openedChannels_mem {re : Replies} {is : List (Fin netIpcMaxNum)} {i : Fin netIpcMaxNum}
    (hq : ∀ j ∈ is, re.IpcamCfg.online j ≠ 0 → 0 ≤ re.queueid j) (hi : i ∈ is)
    (hon : re.IpcamCfg.online i ≠ 0) (hplay : 0 ≤ re.lRealPlayHandle i) :
    (⟨re.lRealPlayHandle i, re.lUserID, i + 1, re.queueid i⟩ : Preview) ∈ openedChannels re is := by
  induction is with
  | nil => cases hi
  | cons j rest ih =>
      rw [List.forall_mem_cons] at hq
      rw [openedChannels]
      rcases List.mem_cons.1 hi with rfl | hi
      · rw [if_neg hon, if_neg (Int.not_lt.2 hplay)]
        exact List.mem_append_left _ List.mem_cons_self
      · split
        · exact ih hq.2 hi
        · next hon' =>
            rw [if_neg (Int.not_lt.2 (hq.1 hon'))]
            exact List.mem_append_right _ (ih hq.2 hi)

/-! ## Records and their slots -/

/-- The slots of a record that is in the list: a channel was offline, it got a queue and perhaps a
    preview, or the slot was never filled in, which comes after the others. All previews and queues of
    the login are in a slot. -/
structure Filled (held : List Held) (previews : List Preview) (d : HkSdkDeviceInfo) : Prop where
  login : .login d.lUserID ∈ held
  slot : ∀ i,
    (d.lChannel i = -1 ∧ d.lRealPlayHandle i = -1 ∧ d.lqueueId i = -1) ∨
    (0 < d.lChannel i ∧ 0 ≤ d.lqueueId i ∧ .queue (d.lqueueId i) d.lUserID ∈ held ∧
      (0 ≤ d.lRealPlayHandle i →
        ⟨d.lRealPlayHandle i, d.lUserID, d.lChannel i, d.lqueueId i⟩ ∈ previews)) ∨
    (d.lChannel i = 0 ∧ d.lRealPlayHandle i = 0 ∧ d.lqueueId i = 0)
  order : ∀ i j, d.lChannel i = 0 → 0 < d.lChannel j → j < i
  preview : ∀ v ∈ previews, v.lUserID = d.lUserID → ∃ i, 0 < d.lChannel i ∧
    d.lChannel i = v.lChannel ∧ d.lRealPlayHandle i = v.lRealPlayHandle ∧ d.lqueueId i = v.lqueueId
  queue : ∀ q, .queue q d.lUserID ∈ held → ∃ i, 0 < d.lChannel i ∧ d.lqueueId i = q

variable {d : HkSdkDeviceInfo}

/-- What is opened and closed on other logins does not matter. -/
theorem Filled.frame (h : Filled held previews d) {held' : List Held} {previews' : List Preview}
    (hheld : ∀ x : Held, x.isStream ∨ x = .login x.lUserID → x.lUserID = d.lUserID →
      (x ∈ held' ↔ x ∈ held))
    (hpreviews : ∀ v : Preview, v.lUserID = d.lUserID → (v ∈ previews' ↔ v ∈ previews)) :
    Filled held' previews' d where
  login := (hheld _ (.inr rfl) rfl).2 h.login
  slot i := by
    refine (h.slot i).imp_right fun hslot => hslot.imp_left ?_
    intro ⟨hchannel, hpos, hqueue, hplay⟩
    exact ⟨hchannel, hpos, (hheld _ (.inl rfl) rfl).2 hqueue, fun hh => (hpreviews _ rfl).2 (hplay hh)⟩
  order := h.order
  preview v hv hu := h.preview v ((hpreviews v hu).1 hv) hu
  queue q hq := h.queue q ((hheld _ (.inl rfl) rfl).1 hq)

theorem mem_channelsOf {cfg : IpParaCfg} {i : Fin netIpcMaxNum} :
    i ∈ channelsOf cfg ↔ (i : ℕ) < cfg.dwDChanNum := by
  rw [channelsOf, List.mem_take_iff_getElem]
  constructor
  · rintro ⟨j, hj, rfl⟩
    rw [List.getElem_finRange]
    simp only [Fin.val_cast]
    omega
  · intro h
    refine ⟨i, ?_, ?_⟩
    · rw [List.length_finRange]
      exact Nat.lt_min.2 ⟨h, i.2⟩
    · rw [List.getElem_finRange]
      rfl

/-- The queues of the record are those of its cameras. -/
theorem of_mem_addLocals_queue {devInfo : HKDVRParam} {re : Replies} {is : List (Fin netIpcMaxNum)}
    {q u : ℤ} (h : .queue q u ∈ (addLocals devInfo re).held ++ is.flatMap (channelHeld re)) :
    ∃ i ∈ is, re.IpcamCfg.online i ≠ 0 ∧ q = re.queueid i := by
  rw [addLocals, acquired, List.mem_append, List.mem_cons] at h
  rcases h with (h | h) | h
  · cases h
  · split at h <;> simp at h
  · obtain ⟨i, hi, h⟩ := List.mem_flatMap.1 h
    rw [channelHeld, acquired] at h
    split at h
    · cases h
    · next hon =>
        rcases List.mem_append.1 h with h | h
        · split at h <;> simp at h
        · refine ⟨i, hi, hon, ?_⟩
          simp only [List.mem_singleton, Held.queue.injEq] at h
          exact h.1

/-- The record that a `HksdkDeviceAdd` links. -/
theorem filled_of_registers {devInfo : HKDVRParam} {found : Bool} {re : Replies} {l : AddLocals}
    (h : hksdkDeviceAddEnd found devInfo re = .registers l) :
    l.dvrInfo.lUserID = re.lUserID ∧
      Filled l.held (openedChannels re (channelsOf re.IpcamCfg)) l.dvrInfo := by
  obtain ⟨-, -, hqueued⟩ := registers_iff.1 ⟨l, h⟩
  rw [hksdkDeviceAddEnd] at h
  split at h
  · cases h
  split at h
  · cases h
  split at h
  · cases h
  next hadd =>
    cases h
    obtain ⟨huser, -, hheld, hslots⟩ := addChannels_spec hadd
    have huser' : l.dvrInfo.lUserID = re.lUserID := huser
    have hof : ∀ i, i ∈ channelsOf re.IpcamCfg → re.IpcamCfg.online i ≠ 0 →
        l.dvrInfo.lRealPlayHandle i = re.lRealPlayHandle i ∧
          l.dvrInfo.lqueueId i = re.queueid i ∧ l.dvrInfo.lChannel i = i + 1 := by
      intro i hi hon
      obtain ⟨hplay, hqueue, hchannel⟩ := hslots i
      rw [if_pos hi, channelSlot, if_neg hon] at hplay hqueue hchannel
      exact ⟨hplay, hqueue, hchannel⟩
    have honline : ∀ i, 0 < l.dvrInfo.lChannel i →
        i ∈ channelsOf re.IpcamCfg ∧ re.IpcamCfg.online i ≠ 0 := by
      intro i hpos
      have hchannel := (hslots i).2.2
      rw [channelSlot] at hchannel
      split at hchannel
      · next hi =>
          refine ⟨hi, fun hoff => ?_⟩
          rw [if_pos hoff] at hchannel
          omega
      · rw [hchannel] at hpos
        exact absurd hpos (lt_irrefl 0)
    refine ⟨huser', ?_, fun i => ?_, fun i j hi hj => ?_, fun v hv _ => ?_, fun q hq => ?_⟩
    · rw [hheld, huser']
      exact List.mem_append_left _ List.mem_cons_self
    -- a channel is offline, or it has its queue, or it comes after the last one
    · by_cases hi : i ∈ channelsOf re.IpcamCfg
      · by_cases hoff : re.IpcamCfg.online i = 0
        · obtain ⟨hplay, hqueue, hchannel⟩ := hslots i
          rw [if_pos hi, channelSlot, if_pos hoff] at hplay hqueue hchannel
          exact .inl ⟨hchannel, hplay, hqueue⟩
        · obtain ⟨hplay, hqueue, hchannel⟩ := hof i hi hoff
          rw [hplay, hqueue, hchannel, huser']
          refine .inr (.inl ⟨by omega, hqueued i hi hoff, ?_, fun hopen => ?_⟩)
          · rw [hheld]
            refine List.mem_append_right _ (List.mem_flatMap.2 ⟨i, hi, ?_⟩)
            rw [channelHeld, if_neg hoff]
            exact List.mem_append_right _ List.mem_cons_self
          · exact openedChannels_mem hqueued hi hoff hopen
      · obtain ⟨hplay, hqueue, hchannel⟩ := hslots i
        rw [if_neg hi] at hplay hqueue hchannel
        exact .inr (.inr ⟨hchannel, hplay, hqueue⟩)
    · obtain ⟨hj, -⟩ := honline j hj
      rw [Fin.lt_def]
      by_contra hle
      have hmem : i ∈ channelsOf re.IpcamCfg := by
        rw [mem_channelsOf] at hj ⊢
        omega
      have hchannel := (hslots i).2.2
      rw [if_pos hmem, channelSlot] at hchannel
      split at hchannel <;> omega
    · obtain ⟨i, hi, hon, -, rfl⟩ := mem_openedChannels hv
      obtain ⟨hplay, hqueue, hchannel⟩ := hof i hi hon
      exact ⟨i, by omega, hchannel, hplay, hqueue⟩
    · obtain ⟨i, hi, hon, rfl⟩ := of_mem_addLocals_queue (hheld ▸ hq)
      obtain ⟨-, hqueue, hchannel⟩ := hof i hi hon
      exact ⟨i, by omega, hqueue⟩

/-! ## One add -/

/-- What a `HksdkDeviceAdd` that returns has done. -/
theorem add_spec {reg reg' : Records} {devInfo : Option HKDVRParam} {re : Replies}
    {junk : ℕ → DvrString} {code : ℤ}
    (h : hksdkDeviceAdd id (fun l => (l.dvrInfo, l.HkDvrInfo)) reg devInfo re junk =
      .ok (code, reg')) :
    ∃ new, reg'.held = reg.held ++ new ∧ (∀ x ∈ new, x.lUserID = re.lUserID) ∧
      new.filter Held.isPlay = (opened reg devInfo re).map Preview.held ∧
      (new = [] ∨ .login re.lUserID ∈ new) ∧
      (reg'.dvrlistHead = reg.dvrlistHead ∨
        ∃ d, reg'.dvrlistHead = reg.dvrlistHead ++ [d] ∧ d.lUserID = re.lUserID ∧
          Filled new (opened reg devInfo re) d) := by
  cases devInfo with
  | none =>
      cases h
      exact ⟨[], (List.append_nil _).symm, List.forall_mem_nil _, rfl, .inl rfl, .inl rfl⟩
  | some devInfo =>
      have hlocals : ∀ x ∈ (addLocals devInfo re).held, x.lUserID = re.lUserID := by
        unfold addLocals acquired
        split <;> simp [Held.lUserID]
      have hplays : (addLocals devInfo re).held.filter Held.isPlay = [] := by
        unfold addLocals acquired
        split <;> rfl
      obtain ⟨more, hheld, hmore, hmorePlays⟩ :=
        addChannels_held re (channelsOf re.IpcamCfg) (addLocals devInfo re)
      have hall : ∀ x ∈ (addLocals devInfo re).held ++ more, x.lUserID = re.lUserID := by
        rw [List.forall_mem_append]
        exact ⟨hlocals, hmore⟩
      have hlogin : ∀ l, Held.login re.lUserID ∈ (addLocals devInfo re).held ++ l := fun l =>
        List.mem_append_left _ List.mem_cons_self
      rw [hksdkDeviceAdd] at h
      cases hend : hksdkDeviceAddEnd (reg.isAdded id devInfo) devInfo re with
      | returns code' held' cameras =>
          rw [hend] at h
          cases h
          refine ⟨held', rfl, ?_⟩
          rw [opened]
          -- the login fails, the NVR is there already, or a channel gets no queue
          rw [hksdkDeviceAddEnd] at hend
          split at hend
          · next hfail =>
              cases hend
              rw [if_pos (.inl hfail)]
              exact ⟨List.forall_mem_nil _, rfl, .inl rfl, .inl rfl⟩
          · next hlog =>
              split at hend
              · next hfound =>
                  cases hend
                  rw [if_pos (.inr hfound), hplays]
                  exact ⟨hlocals, rfl, .inr List.mem_cons_self, .inl rfl⟩
              · next hfound =>
                  rw [if_neg (not_or.2 ⟨hlog, hfound⟩)]
                  split at hend
                  · next l hadd =>
                      cases hend
                      rw [hadd] at hheld
                      rw [hheld, List.filter_append, hplays, hmorePlays]
                      exact ⟨hall, rfl, .inr (hlogin _), .inl rfl⟩
                  · cases hend
      | registers l =>
          rw [hend] at h
          obtain ⟨conf, -, hreg⟩ := map_eq_ok_iff.1 h
          cases hreg
          obtain ⟨hlog, hfound, -⟩ := registers_iff.1 ⟨l, hend⟩
          have hopened : opened reg (some devInfo) re =
              openedChannels re (channelsOf re.IpcamCfg) :=
            if_neg (not_or.2 ⟨Int.not_lt.2 hlog, by rw [hfound]; exact Bool.false_ne_true⟩)
          obtain ⟨huser, hfilled⟩ := filled_of_registers hend
          have hl : l.held = (addLocals devInfo re).held ++ more := by
            rw [hksdkDeviceAddEnd, if_neg (Int.not_lt.2 hlog), hfound,
              if_neg Bool.false_ne_true] at hend
            split at hend
            · cases hend
            · next hadd =>
                cases hend
                rwa [hadd] at hheld
          rw [hopened]
          refine ⟨l.held, rfl, ?_, ?_, ?_, .inr ⟨l.dvrInfo, rfl, huser, hfilled⟩⟩
          · rwa [hl]
          · rw [hl, List.filter_append, hplays, hmorePlays]
            rfl
          · rw [hl]
            exact .inr (hlogin _)

theorem opened_nonneg {reg : Records} {devInfo : Option HKDVRParam} {re : Replies} {v : Preview}
    (h : v ∈ opened reg devInfo re) : 0 ≤ v.lRealPlayHandle ∧ v.lUserID = re.lUserID := by
  unfold opened at h
  split at h
  · cases h
  · split at h
    · cases h
    · obtain ⟨i, -, -, hplay, rfl⟩ := mem_openedChannels h
      exact ⟨hplay, rfl⟩

/-! ## What a record closes -/

/-- The previews in progress are those in use, in order. -/
def Accounted (held : List Held) (previews : List Preview) : Prop :=
  previews.map Preview.held = held.filter Held.isPlay ∧ ∀ v ∈ previews, 0 ≤ v.lRealPlayHandle

theorem Accounted.mem (h : Accounted held previews) {v : Preview} (hv : v ∈ previews) :
    v.held ∈ held := by
  have hmem : v.held ∈ held.filter Held.isPlay := h.1 ▸ List.mem_map_of_mem hv
  exact (List.mem_filter.1 hmem).1

theorem Accounted.exists_preview (h : Accounted held previews) {hd u : ℤ}
    (hx : .realPlay hd u ∈ held) : ∃ v ∈ previews, v.held = .realPlay hd u := by
  have hmem : Held.realPlay hd u ∈ previews.map Preview.held :=
    h.1 ▸ List.mem_filter.2 ⟨hx, rfl⟩
  exact List.mem_map.1 hmem

theorem Accounted.eq (h : Accounted held previews) (hdist : Distinct held) {v w : Preview}
    (hv : v ∈ previews) (hw : w ∈ previews) (hvw : v.lRealPlayHandle = w.lRealPlayHandle) :
    v = w := by
  have hpair : (previews.map Preview.held).Pairwise fun x y => x.same y = false :=
    h.1 ▸ hdist.filter _
  rw [List.pairwise_map] at hpair
  have hsymm : Std.Symm fun v w : Preview => v.held.same w.held = false :=
    ⟨fun x y hxy => by rwa [Held.same_comm]⟩
  by_contra hne
  have hdiff := List.Pairwise.forall hpair hv hw hne
  simp [Held.same, hvw] at hdiff

/-- A record closes what was opened on its login, and nothing else, exactly when no slot is unused or
    preview and queue `0` are of no other login. -/
theorem Filled.releases_iff (h : Filled held previews d) (hacc : Accounted held previews)
    (hdist : Distinct held) :
    (∀ x, x.isStream → (x ∈ held.filter (fun x => !d.releases x) ↔
        x ∈ held ∧ x.lUserID ≠ d.lUserID)) ↔
      (d.HasUnused → (∀ u, .realPlay 0 u ∈ held → u = d.lUserID) ∧
        ∀ u, .queue 0 u ∈ held → u = d.lUserID) := by
  constructor
  · intro hall ⟨i, hi⟩
    have hzero : d.lRealPlayHandle i = 0 ∧ d.lqueueId i = 0 := by
      rcases h.slot i with ⟨hchannel, -⟩ | ⟨hchannel, -⟩ | ⟨-, hslot⟩
      · omega
      · omega
      · exact hslot
    have hrel : ∀ x, x.isStream → x ∈ held → d.releases x = true → x.lUserID = d.lUserID := by
      intro x hx hmem hrel
      by_contra hne
      have hstays := (hall x hx).2 ⟨hmem, hne⟩
      rw [List.mem_filter, hrel] at hstays
      exact absurd hstays.2 Bool.false_ne_true
    refine ⟨fun u hu => hrel _ rfl hu ?_, fun u hu => hrel _ rfl hu ?_⟩
    · exact decide_eq_true ⟨le_rfl, i, hzero.1⟩
    · exact decide_eq_true ⟨le_rfl, i, hzero.2⟩
  · intro hzero x hx
    rw [List.mem_filter]
    refine and_congr_right fun hmem => ?_
    rw [Bool.not_eq_true', ← Bool.not_eq_true, not_iff_not]
    cases x with
    | login u => cases hx
    | alarm a u => cases hx
    | realPlay hd u =>
        rw [HkSdkDeviceInfo.releases, decide_eq_true_iff, Held.lUserID]
        constructor
        · rintro ⟨hpos, i, rfl⟩
          -- a handle names one preview; a slot that was never filled in names preview `0`
          rcases h.slot i with ⟨-, hslot, -⟩ | ⟨-, -, -, hplay⟩ | ⟨hchannel, hslot, -⟩
          · omega
          · have hown := hacc.mem (hplay hpos)
            have heq := hdist.eq hmem hown (decide_eq_true rfl)
            rw [Held.realPlay.injEq] at heq
            exact heq.2
          · rw [hslot] at hmem
            exact (hzero ⟨i, hchannel⟩).1 u hmem
        · rintro rfl
          obtain ⟨v, hv, heq⟩ := hacc.exists_preview hmem
          rw [Held.realPlay.injEq] at heq
          obtain ⟨i, -, -, hslot, -⟩ := h.preview v hv heq.2
          exact ⟨heq.1 ▸ hacc.2 v hv, i, hslot.trans heq.1⟩
    | queue q u =>
        rw [HkSdkDeviceInfo.releases, decide_eq_true_iff, Held.lUserID]
        constructor
        · rintro ⟨hpos, i, rfl⟩
          rcases h.slot i with ⟨-, -, hslot⟩ | ⟨-, -, hown, -⟩ | ⟨hchannel, -, hslot⟩
          · omega
          · have heq := hdist.eq hmem hown (decide_eq_true rfl)
            rw [Held.queue.injEq] at heq
            exact heq.2
          · rw [hslot] at hmem
            exact (hzero ⟨i, hchannel⟩).2 u hmem
        · rintro rfl
          obtain ⟨i, hchannel, rfl⟩ := h.queue q hmem
          refine ⟨?_, i, rfl⟩
          rcases h.slot i with ⟨hoff, -⟩ | ⟨-, hpos, -⟩ | ⟨-, -, hslot⟩
          · omega
          · exact hpos
          · omega

/-! ## What the callback finds -/

variable {v : Preview}

/-- The first slot of a record with the handle of a preview. -/
theorem Filled.channelOf_eq (h : Filled held previews d) (hacc : Accounted held previews)
    (hdist : Distinct held) (hv : v ∈ previews) :
    d.channelOf v.lRealPlayHandle =
      if d.lUserID = v.lUserID then some (v.lChannel, v.lqueueId)
      else if v.lRealPlayHandle = 0 ∧ d.HasUnused then some (0, 0) else none := by
  have hown : ∀ i, d.lRealPlayHandle i = v.lRealPlayHandle → 0 < d.lChannel i →
      v = ⟨d.lRealPlayHandle i, d.lUserID, d.lChannel i, d.lqueueId i⟩ := by
    intro i hi hpos
    rcases h.slot i with ⟨hoff, -⟩ | ⟨-, -, -, hplay⟩ | ⟨hunused, -⟩
    · omega
    · exact hacc.eq hdist hv (hplay (hi ▸ hacc.2 v hv)) hi.symm
    · omega
  rw [HkSdkDeviceInfo.channelOf]
  cases hfind : (List.finRange netIpcMaxNum).find? fun mm =>
      d.lRealPlayHandle mm = v.lRealPlayHandle with
  | none =>
      have hnone : ∀ i, d.lRealPlayHandle i ≠ v.lRealPlayHandle := fun i => by
        simpa using List.find?_eq_none.1 hfind i (List.mem_finRange i)
      rw [if_neg, if_neg]
      · rfl
      · rintro ⟨hzero, i, hi⟩
        rcases h.slot i with ⟨hoff, -⟩ | ⟨hpos, -⟩ | ⟨-, hslot, -⟩
        · omega
        · omega
        · exact hnone i (hslot.trans hzero.symm)
      · intro hu
        obtain ⟨i, -, -, hslot, -⟩ := h.preview v hv hu.symm
        exact hnone i hslot
  | some i =>
      obtain ⟨hi, k, hk, hki, hfirst⟩ := List.find?_eq_some_iff_getElem.1 hfind
      rw [decide_eq_true_iff] at hi
      have hbefore : ∀ j, j < i → d.lRealPlayHandle j ≠ v.lRealPlayHandle := by
        intro j hj
        rw [List.getElem_finRange] at hki
        have hjk : (j : ℕ) < k := by
          rw [← hki, Fin.lt_def] at hj
          exact hj
        have hnot := hfirst j hjk
        rw [List.getElem_finRange] at hnot
        simpa using hnot
      rw [Option.map_some]
      rcases h.slot i with ⟨-, hslot, -⟩ | ⟨hpos, -⟩ | ⟨hunused, hslot, hqueue⟩
      · have hnonneg := hacc.2 v hv
        omega
      · have hv' := hown i hi hpos
        rw [if_pos (by rw [hv']), hv']
      · rw [if_neg, if_pos ⟨hi.symm.trans hslot, i, hunused⟩, hunused, hqueue]
        intro hu
        obtain ⟨j, hpos, -, hj, -⟩ := h.preview v hv hu.symm
        exact hbefore j (h.order i j hunused hpos) hj

theorem findChannel_concat (l : List HkSdkDeviceInfo) (d : HkSdkDeviceInfo) (h : ℤ) :
    findChannel (l ++ [d]) h =
      if d.Searched then (d.channelOf h).getD (findChannel l h) else findChannel l h := by
  rw [findChannel, List.foldl_append]
  rfl

variable {l : List HkSdkDeviceInfo}

theorem listed_concat : v.Listed (l ++ [d]) ↔ v.Listed l ∨ d.Searched ∧ d.lUserID = v.lUserID := by
  simp only [Preview.Listed, List.mem_append, List.mem_singleton, or_and_right, exists_or,
    exists_eq_left]

theorem diverted_concat : v.Diverted (l ++ [d]) ↔
    v.lRealPlayHandle = 0 ∧ d.Searched ∧ d.HasUnused ∧ d.lUserID ≠ v.lUserID ∨
      v.Diverted l ∧ ¬ (d.Searched ∧ d.lUserID = v.lUserID) := by
  constructor
  · rintro ⟨hzero, pre, e, post, heq, hs, hunused, hne, hlast⟩
    rcases List.eq_nil_or_concat' post with rfl | ⟨post', e', rfl⟩
    · obtain ⟨rfl, hde⟩ := List.append_inj' heq rfl
      obtain rfl := List.head_eq_of_cons_eq hde
      exact .inl ⟨hzero, hs, hunused, hne⟩
    · rw [← List.cons_append, ← List.append_assoc] at heq
      obtain ⟨rfl, hde⟩ := List.append_inj' heq rfl
      obtain rfl := List.head_eq_of_cons_eq hde
      rw [listed_concat, not_or] at hlast
      exact .inr ⟨⟨hzero, pre, e, post', rfl, hs, hunused, hne, hlast.1⟩, hlast.2⟩
  · rintro (⟨hzero, hs, hunused, hne⟩ | ⟨⟨hzero, pre, e, post, rfl, hs, hunused, hne, hlast⟩, hnot⟩)
    · exact ⟨hzero, l, d, [], rfl, hs, hunused, hne, by simp [Preview.Listed]⟩
    · refine ⟨hzero, pre, e, post ++ [d], by simp, hs, hunused, hne, ?_⟩
      rw [listed_concat, not_or]
      exact ⟨hlast, hnot⟩

/-- The callback takes a preview for what it is when its NVR is listed, unless it is diverted to the
    unused slot of another NVR. -/
theorem findChannel_eq (hacc : Accounted held previews) (hdist : Distinct held) (hv : v ∈ previews)
    (hl : ∀ d ∈ l, Filled held previews d) :
    (v.Diverted l → findChannel l v.lRealPlayHandle = (0, 0)) ∧
      (v.Listed l → ¬ v.Diverted l →
        findChannel l v.lRealPlayHandle = (v.lChannel, v.lqueueId)) ∧
      (¬ v.Listed l → ¬ v.Diverted l → findChannel l v.lRealPlayHandle = (-1, -1)) := by
  induction l using List.reverseRecOn with
  | nil => simp [Preview.Diverted, Preview.Listed, findChannel]
  | append_singleton l d ih =>
      rw [List.forall_mem_append, List.forall_mem_singleton] at hl
      obtain ⟨hdiv, hlist, hnone⟩ := ih hl.1
      rw [findChannel_concat, hl.2.channelOf_eq hacc hdist hv, diverted_concat, listed_concat]
      by_cases hs : d.Searched
      · rw [if_pos hs]
        by_cases hu : d.lUserID = v.lUserID
        · simp [hs, hu]
        · rw [if_neg hu]
          by_cases hzero : v.lRealPlayHandle = 0 ∧ d.HasUnused
          · simp [hs, hu, hzero.1, hzero.2]
          · rw [if_neg hzero, Option.getD_none]
            have hnot : ¬ (v.lRealPlayHandle = 0 ∧ d.Searched ∧ d.HasUnused ∧
                d.lUserID ≠ v.lUserID) := fun h => hzero ⟨h.1, h.2.2.1⟩
            simp only [hnot, hu, and_false, not_false_eq_true, and_true, or_false, false_or]
            exact ⟨hdiv, hlist, hnone⟩
      · rw [if_neg hs]
        simp only [hs, false_and, and_false, not_false_eq_true, and_true, or_false, false_or]
        exact ⟨hdiv, hlist, hnone⟩

/-! ## One packet -/

variable {cache : FrameCache} {since : List (List UInt8)} {p : Packet}

theorem FrameCache.Holds.payloads_eq (h : cache.Holds since) : cache.payloads = since := by
  refine List.ext_getElem? fun i => ?_
  rw [FrameCache.payloads, List.getElem?_map, h.length]
  cases hx : since[i]? with
  | none =>
      rw [List.getElem?_eq_none (by simpa using List.getElem?_eq_none_iff.1 hx)]
      rfl
  | some x =>
      have hlt := (List.getElem?_eq_some_iff.1 hx).1
      obtain ⟨buffer, hbuffer, hbytes, -⟩ := h.cached i x hx
      rw [List.getElem?_range hlt, Option.map_some, hbuffer, Option.map_some, Option.getD_some,
        hbytes]

theorem writeH264DataToChace_isSome (queueid : ℕ) (data : List UInt8) :
    (writeH264DataToChace queueid data).isSome ↔ data ≠ [] := by
  unfold writeH264DataToChace
  have hq : ¬ (queueid : ℤ) < 0 := Int.not_lt.2 (Int.natCast_nonneg _)
  by_cases hnil : data = []
  · simp [hnil]
  · have hpos : ¬ data.length ≤ 0 := Nat.not_le.2 (List.length_pos_iff.2 hnil)
    simp [hq, hnil]

/-- What the callback does to the row of the stream. -/
theorem FrameCache.Holds.streamData_spec (h : cache.Holds since) (queueid : ℕ)
    (hp : p.dwDataType = netDvrStreamdata) :
    (since.length < maxFrameLenth ∧ (p.pBuffer.length < 2 ^ 31 →
        ¬ p.Truncated ∧ (p.IsPackHeader → since.flatten.length ≤ since.length * maxPackSize)) ↔
      ∃ r, streamData queueid p cache = .ok r) ∧
    ∀ cache' f, streamData queueid p cache = .ok (cache', f) →
      (∃ since', cache'.Holds since' ∧ since'.length ≤ since.length + 1) ∧
        (f.isSome ↔ p.Completes since) := by
  have hpack : p.IsPackHeader ↔ packStart <+: p.pBuffer := and_iff_right hp
  rw [streamData_eq h, Packet.Completes, hpack]
  by_cases hroom : since.length < maxFrameLenth
  swap
  · simp [hroom]
  rw [if_neg (not_not.2 hroom), and_iff_right hroom]
  have hsame : ∃ since', cache.Holds since' ∧ since'.length ≤ since.length + 1 :=
    ⟨since, h, Nat.le_succ _⟩
  by_cases hsize : p.pBuffer.length < 2 ^ 31
  swap
  · rw [if_pos hsize]
    refine ⟨iff_of_true (fun h => absurd h hsize) ⟨_, rfl⟩, fun cache' f hok => ?_⟩
    cases hok
    exact ⟨hsame, iff_of_false Bool.false_ne_true fun hc => hsize hc.2.1⟩
  rw [if_neg (not_not.2 hsize), forall_prop_of_true hsize, and_iff_right hsize]
  by_cases htrunc : p.Truncated
  · simp [htrunc]
  rw [if_neg htrunc, and_iff_right htrunc]
  by_cases hv : videoStart <+: p.pBuffer
  · have hnot : ¬ packStart <+: p.pBuffer := fun hpk => not_video_of_pack hpk hv
    rw [if_pos hv]
    refine ⟨iff_of_true (fun hpk => absurd hpk hnot) ⟨_, rfl⟩, fun cache' f hok => ?_⟩
    cases hok
    exact ⟨⟨_, h.video, by simp⟩, by simp [hnot]⟩
  rw [if_neg hv]
  by_cases hb : packStart <+: p.pBuffer
  swap
  · rw [if_neg hb]
    refine ⟨iff_of_true (fun hpk => absurd hpk hb) ⟨_, rfl⟩, fun cache' f hok => ?_⟩
    cases hok
    exact ⟨hsame, by simp [hb]⟩
  rw [if_pos hb, forall_prop_of_true hb, and_iff_right hb]
  by_cases hnil : since = []
  · rw [if_pos hnil]
    refine ⟨iff_of_true (by simp [hnil]) ⟨_, rfl⟩, fun cache' f hok => ?_⟩
    cases hok
    exact ⟨⟨_, h.setSlot, Nat.le_succ _⟩, by simp [hnil]⟩
  · rw [if_neg hnil]
    by_cases hfits : since.flatten.length ≤ since.length * maxPackSize
    · rw [if_pos hfits]
      refine ⟨iff_of_true hfits ⟨_, rfl⟩, fun cache' f hok => ?_⟩
      cases hok
      exact ⟨⟨_, h.setSlot.clear, Nat.zero_le _⟩, writeH264DataToChace_isSome _ _⟩
    · rw [if_neg hfits]
      refine ⟨iff_of_false hfits ?_, fun cache' f hok => ?_⟩
      · rintro ⟨_, hok⟩
        cases hok
      · cases hok

theorem streamData_queueid {queueid : ℤ} {cache' : FrameCache} {f : PushedFrame}
    (h : streamData queueid p cache = .ok (cache', some f)) : f.queueid = queueid := by
  have hwrite : ∀ data, writeH264DataToChace queueid data = some f → f.queueid = queueid := by
    intro data hw
    unfold writeH264DataToChace at hw
    split at hw
    · cases hw
    · cases hw
      rfl
  rw [streamData] at h
  split at h
  · obtain ⟨ps, -, hps⟩ := bind_eq_ok_iff.1 h
    cases ps with
    | other => cases hps
    | video slot => cases hps
    | packHeader slot =>
        simp only at hps
        split at hps
        · obtain ⟨nal, -, heq⟩ := map_eq_ok_iff.1 hps
          exact hwrite nal (congrArg Prod.snd heq)
        · cases hps
  · cases h

/-- What the callback does, once it has found the channel. -/
theorem realData_spec {fd : FrameFd} {h : ℤ} (hcache : (fd h).Holds (fd h).payloads) (queueid : ℕ)
    (p : Packet) :
    (p.InBounds h (fd h).payloads ↔ ∃ r, realData queueid h p fd = .ok r) ∧
      ∀ fd' f, realData queueid h p fd = .ok (fd', f) →
        (∀ h', h' ≠ h → fd' h' = fd h') ∧
          (∃ since, (fd' h).Holds since ∧
            (fd' h).m_mFrameCacheLenth ≤ (fd h).m_mFrameCacheLenth + 1) ∧
          (f.isSome ↔ p.Completes (fd h).payloads) ∧ ∀ x ∈ f, x.queueid = queueid := by
  by_cases hp : p.dwDataType = netDvrStreamdata
  · rw [Packet.InBounds, forall_prop_of_true hp, realData, if_pos hp]
    by_cases hrow : 0 ≤ h ∧ h < netIpcMaxNum
    · rw [if_pos hrow, and_iff_right hrow]
      obtain ⟨hok, hspec⟩ := hcache.streamData_spec queueid hp
      rw [hok]
      constructor
      · constructor
        · rintro ⟨r, hr⟩
          exact ⟨_, map_eq_ok_iff.2 ⟨r, hr, rfl⟩⟩
        · rintro ⟨r, hr⟩
          obtain ⟨r', hr', -⟩ := map_eq_ok_iff.1 hr
          exact ⟨r', hr'⟩
      · intro fd' f hr
        obtain ⟨⟨cache', f'⟩, hr', heq⟩ := map_eq_ok_iff.1 hr
        cases heq
        obtain ⟨⟨since', hholds, hlen⟩, hsome⟩ := hspec cache' f' hr'
        refine ⟨fun h' hne => Function.update_of_ne hne _ _, ⟨since', ?_, ?_⟩, hsome, ?_⟩
        · rwa [Function.update_self]
        · rw [Function.update_self, hholds.length, hcache.length]
          exact hlen
        · intro x hx
          obtain rfl : f' = some x := hx
          exact streamData_queueid hr'
    · rw [if_neg hrow]
      constructor
      · refine iff_of_false (fun hin => hrow hin.1) ?_
        rintro ⟨_, hok⟩
        cases hok
      · intro fd' f hok
        cases hok
  · rw [realData, if_neg hp]
    refine ⟨iff_of_true (fun h => absurd h hp) ⟨_, rfl⟩, fun fd' f hok => ?_⟩
    cases hok
    refine ⟨fun _ _ => rfl, ⟨_, hcache, Nat.le_succ _⟩, ?_, fun x hx => by cases hx⟩
    exact iff_of_false Bool.false_ne_true fun hc => hp hc.1.1

/-! ## The invariant -/

/-- As long as every event is safe, the records say what is in use, and each row of the cache holds
    packets of its preview only. -/
structure Streaming.Inv (s : Streaming) : Prop where
  distinct : Distinct s.reg.held
  accounted : Accounted s.reg.held s.previews
  login : ∀ x ∈ s.reg.held, x.isStream → .login x.lUserID ∈ s.reg.held
  filled : ∀ d ∈ s.reg.dvrlistHead, Filled s.reg.held s.previews d
  users : (s.reg.dvrlistHead.map HkSdkDeviceInfo.lUserID).Nodup
  cached : ∀ h, (s.fd h).Holds (s.fd h).payloads
  sources : ∀ h, (s.sources h).length = (s.fd h).m_mFrameCacheLenth
  own : ∀ v ∈ s.previews, ∀ w ∈ s.sources v.lRealPlayHandle, w = v

theorem Streaming.inv_init (Dvrlist : Option (List DvrConf)) : (Streaming.init Dvrlist).Inv where
  distinct := .nil
  accounted := ⟨rfl, List.forall_mem_nil _⟩
  login := List.forall_mem_nil _
  filled := List.forall_mem_nil _
  users := List.nodup_nil
  cached _ := ⟨rfl, by simp [FrameCache.payloads, Streaming.init, FrameFd.zero], fun _ _ => rfl⟩
  sources _ := rfl
  own := List.forall_mem_nil _

variable {s s' : Streaming} {e : StreamEvent}

/-- No stream is open on a login that has just been given out. -/
theorem Streaming.Inv.ne_of_fresh (h : s.Inv) {new : List Held} {u : ℤ}
    (hdist : Distinct (s.reg.held ++ new)) (hu : .login u ∈ new) {x : Held} (hx : x ∈ s.reg.held)
    (hkind : x.isStream ∨ x = .login x.lUserID) : x.lUserID ≠ u := by
  intro heq
  have hlogin : .login x.lUserID ∈ s.reg.held := by
    rcases hkind with hs | hl
    · exact h.login x hx hs
    · rwa [← hl]
  have hdiff := (List.pairwise_append.1 hdist).2.2 _ hlogin _ hu
  simp [Held.same, heq] at hdiff

/-- An add is right exactly when it is safe. -/
theorem Streaming.Inv.add_iff (h : s.Inv) {devInfo : Option HKDVRParam} {re : Replies}
    {junk : ℕ → DvrString} :
    s.Routes (.deviceAdd devInfo re junk) ↔ s.Safe (.deviceAdd devInfo re junk) := by
  have hsources : ∀ hd, s.sources hd = [] ↔ (s.fd hd).m_mFrameCacheLenth = 0 := fun hd => by
    rw [← h.sources, List.length_eq_zero_iff]
  rw [Streaming.Routes, Streaming.Safe]
  cases devInfo with
  | none => simp [hksdkDeviceAdd, opened]
  | some d =>
      simp only [Option.some.injEq, forall_eq', hsources, opened, hksdkDeviceAdd]
      have hend' : (∃ l, hksdkDeviceAddEnd (s.reg.isAdded id d) d re = .registers l) ↔ _ :=
        registers_iff
      cases hend : hksdkDeviceAddEnd (s.reg.isAdded id d) d re with
      | returns code held' cameras =>
          dsimp only
          rw [and_iff_right (List.prefix_append _ _)]
          have hnot : ¬ (0 ≤ re.lUserID ∧ s.reg.isAdded id d = false ∧ re.Queued) := by
            rw [← hend', hend]
            rintro ⟨_, hl⟩
            cases hl
          by_cases hlog : re.lUserID < 0
          · simp [hlog, Int.not_le.2 hlog]
          · have hlog' := Int.not_lt.1 hlog
            cases hfound : s.reg.isAdded id d with
            | true => simp
            | false =>
                have hqueued : ¬ re.Queued := fun hq => hnot ⟨hlog', hfound, hq⟩
                simp [hlog, hlog', hqueued]
      | registers l =>
          obtain ⟨hlog, hfound, hqueued⟩ := hend'.1 ⟨l, hend⟩
          have hconf : (∃ conf, hkDvrListConfigAdd junk l.HkDvrInfo s.reg.Dvrlist = .ok conf) ↔ _ :=
            editConf_ok_iff
          simp only [hlog, hfound, hqueued, forall_const, Int.not_lt.2 hlog,
            Bool.false_eq_true, or_false, if_false]
          cases hok : hkDvrListConfigAdd junk l.HkDvrInfo s.reg.Dvrlist with
          | error e =>
              refine iff_of_false not_false fun hsafe => ?_
              obtain ⟨_, hok'⟩ := hconf.2 hsafe.1
              rw [hok] at hok'
              cases hok'
          | ok conf =>
              rw [and_iff_right (hconf.1 ⟨conf, hok⟩)]
              exact and_iff_right (List.prefix_append _ _)

/-- The rows of the handles of a safe add are empty. -/
theorem Streaming.Inv.sources_of_safe (h : s.Inv) {devInfo : Option HKDVRParam} {re : Replies}
    {junk : ℕ → DvrString} (hsafe : s.Safe (.deviceAdd devInfo re junk)) :
    ∀ v ∈ opened s.reg devInfo re, s.sources v.lRealPlayHandle = [] := by
  intro v hv
  refine List.eq_nil_of_length_eq_zero ?_
  rw [h.sources]
  unfold opened at hv
  split at hv
  · cases hv
  · next d =>
      split at hv
      · cases hv
      · next hok =>
          rw [not_or, Bool.not_eq_true] at hok
          exact (hsafe d rfl (Int.not_lt.1 hok.1) hok.2).2 v hv

theorem Streaming.Inv.add (h : s.Inv) {devInfo : Option HKDVRParam} {re : Replies}
    {junk : ℕ → DvrString} (hposs : s.Possible (.deviceAdd devInfo re junk))
    (hsafe : s.Safe (.deviceAdd devInfo re junk))
    (hs : s.handle (.deviceAdd devInfo re junk) = .ok s') : s'.Inv := by
  have hdist := hposs s' hs
  obtain ⟨⟨code, reg'⟩, hadd, rfl⟩ := map_eq_ok_iff.1 hs
  obtain ⟨new, hheld, hnew, hplays, hlogin, hlist⟩ := add_spec hadd
  obtain ⟨dvrs, params, conf, held', cameras⟩ := reg'
  dsimp only at hheld hlist hdist
  subst hheld
  -- what is new is on a login that has nothing open
  have hfresh : ∀ x ∈ s.reg.held, x.isStream ∨ x = .login x.lUserID → new ≠ [] →
      x.lUserID ≠ re.lUserID := fun x hx hkind hne =>
    h.ne_of_fresh hdist (hlogin.resolve_left hne) hx hkind
  have hheldNew : ∀ v ∈ opened s.reg devInfo re, v.held ∈ new := fun v hv =>
    (List.mem_filter.1 (hplays ▸ List.mem_map_of_mem hv)).1
  have hold : ∀ d ∈ s.reg.dvrlistHead,
      Filled (s.reg.held ++ new) (s.previews ++ opened s.reg devInfo re) d := by
    intro d hd
    have hfilled := h.filled d hd
    refine hfilled.frame (fun x _ hx => ?_) fun v hv => ?_
    · rw [List.mem_append, or_iff_left]
      intro hmem
      exact hfresh _ hfilled.login (.inr rfl) (List.ne_nil_of_mem hmem) (hx ▸ hnew x hmem)
    · rw [List.mem_append, or_iff_left]
      intro hmem
      exact hfresh _ hfilled.login (.inr rfl) (List.ne_nil_of_mem (hheldNew v hmem))
        (hv ▸ (opened_nonneg hmem).2)
  constructor
  · exact hdist
  · refine ⟨?_, ?_⟩
    · show (s.previews ++ _).map _ = (s.reg.held ++ new).filter _
      rw [List.map_append, List.filter_append, h.accounted.1, hplays]
    · rw [List.forall_mem_append]
      exact ⟨h.accounted.2, fun v hv => (opened_nonneg hv).1⟩
  · intro x hx hstream
    rcases List.mem_append.1 hx with hx | hx
    · exact List.mem_append_left _ (h.login x hx hstream)
    · rw [hnew x hx]
      exact List.mem_append_right _ (hlogin.resolve_left (List.ne_nil_of_mem hx))
  · rcases hlist with rfl | ⟨d, rfl, huser, hfilled⟩
    · exact hold
    · show ∀ d' ∈ s.reg.dvrlistHead ++ [d], _
      rw [List.forall_mem_append, List.forall_mem_singleton]
      have hne := List.ne_nil_of_mem hfilled.login
      refine ⟨hold, hfilled.frame (fun x hkind hx => ?_) fun v hv => ?_⟩
      · rw [List.mem_append, or_iff_right]
        exact fun hmem => hfresh x hmem hkind hne (hx.trans huser)
      · rw [List.mem_append, or_iff_right]
        exact fun hmem => hfresh _ (h.accounted.mem hmem) (.inl rfl) hne (hv.trans huser)
  · rcases hlist with rfl | ⟨d, rfl, huser, hfilled⟩
    · exact h.users
    · refine nodup_map_concat h.users fun d' hd' => ?_
      rw [huser]
      exact hfresh _ (h.filled d' hd').login (.inr rfl) (List.ne_nil_of_mem hfilled.login)
  · exact h.cached
  · exact h.sources
  · show ∀ v ∈ s.previews ++ _, _
    rw [List.forall_mem_append]
    refine ⟨h.own, fun v hv w hw => ?_⟩
    rw [h.sources_of_safe hsafe v hv] at hw
    cases hw

/-- A delete is right exactly when it is safe. -/
theorem Streaming.Inv.del_iff (h : s.Inv) {devInfo : Option HKDVRParam} {junk : ℕ → DvrString} :
    s.Routes (.deviceDel devInfo junk) ↔ s.Safe (.deviceDel devInfo junk) := by
  rw [Streaming.Routes, Streaming.Safe]
  cases devInfo with
  | none => simp [hksdkDeviceDel, keyFalse, keyTrue]
  | some p =>
      have hkeys : ¬ keyFalse = keyTrue := by decide
      simp only [Option.some.injEq, hksdkDeviceDel, id_eq]
      by_cases hadded : s.reg.isAdded id p = true
      swap
      · rw [if_neg hadded]
        refine iff_of_true ?_ ?_
        · show if _ then _ else _
          rw [if_neg hkeys]
        · rintro _ d rfl hadded' -
          exact absurd hadded' hadded
      rw [if_pos hadded]
      cases hd : lookup HkSdkDeviceInfo.lDvrSerialNumber p.serial s.reg.dvrlistHead with
      | none =>
          refine iff_of_true ?_ ?_
          · show if _ then _ else _
            rw [if_neg hkeys]
          · rintro _ d rfl - hd'
            rw [hd] at hd'
            cases hd'
      | some d =>
          have hreleases := (h.filled d (mem_of_lookup hd)).releases_iff h.accounted h.distinct
          by_cases hfits : DvrlistFits s.reg.Dvrlist
          · obtain ⟨conf, hconf⟩ : ∃ conf, hkDvrListConfigDel junk p s.reg.Dvrlist = .ok conf :=
              editConf_ok_iff.2 hfits
            rw [hconf]
            show (if _ then _ else _) ↔ _
            rw [if_pos rfl]
            constructor
            · rintro ⟨_, d', rfl, hd', hheld⟩ _ d'' rfl - hd''
              rw [hd] at hd' hd''
              cases hd'
              cases hd''
              exact ⟨hfits, hreleases.1 hheld⟩
            · intro hsafe
              exact ⟨p, d, rfl, hd, hreleases.2 (hsafe p d rfl hadded hd).2⟩
          · rw [hkDvrListConfigDel, editConf_error hfits]
            exact iff_of_false not_false fun hsafe => hfits (hsafe p d rfl hadded hd).1

/-- A delete that returns has done nothing to the streams, or it has closed what the record names. -/
theorem del_spec {reg reg' : Records} {devInfo : Option HKDVRParam} {junk : ℕ → DvrString} {code : ℤ}
    (h : hksdkDeviceDel id id reg devInfo junk = .ok (code, reg')) :
    (reg'.held = reg.held ∧ reg'.dvrlistHead = reg.dvrlistHead) ∨
      ∃ p d, devInfo = some p ∧ reg.isAdded id p = true ∧
        lookup HkSdkDeviceInfo.lDvrSerialNumber p.serial reg.dvrlistHead = some d ∧
        reg'.held = reg.held.filter (fun x => !d.releases x) ∧
        reg'.dvrlistHead = eraseFirst HkSdkDeviceInfo.lDvrSerialNumber p.serial reg.dvrlistHead := by
  cases devInfo with
  | none =>
      cases h
      exact .inl ⟨rfl, rfl⟩
  | some p =>
      simp only [hksdkDeviceDel, id_eq] at h
      split at h
      · next hadded =>
          cases hd : lookup HkSdkDeviceInfo.lDvrSerialNumber p.serial reg.dvrlistHead with
          | none =>
              rw [hd] at h
              cases h
              exact .inl ⟨rfl, rfl⟩
          | some d =>
              rw [hd] at h
              obtain ⟨conf, -, heq⟩ := map_eq_ok_iff.1 h
              cases heq
              exact .inr ⟨p, d, rfl, hadded, hd, rfl, rfl⟩
      · cases h
        exact .inl ⟨rfl, rfl⟩

theorem Streaming.Inv.del (h : s.Inv) {devInfo : Option HKDVRParam} {junk : ℕ → DvrString}
    (hsafe : s.Safe (.deviceDel devInfo junk)) (hs : s.handle (.deviceDel devInfo junk) = .ok s') :
    s'.Inv := by
  obtain ⟨⟨code, reg'⟩, hdel, rfl⟩ := map_eq_ok_iff.1 hs
  have hspec := del_spec hdel
  obtain ⟨dvrs, params, conf, held', cameras⟩ := reg'
  dsimp only at hspec
  rcases hspec with ⟨rfl, rfl⟩ | ⟨p, d, rfl, hadded, hd, rfl, rfl⟩
  · have hsame : s.previews.filter (fun v => v.held ∈ s.reg.held) = s.previews := by
      rw [List.filter_eq_self]
      intro v hv
      exact decide_eq_true (h.accounted.mem hv)
    constructor
    · exact h.distinct
    · show Accounted s.reg.held (s.previews.filter fun v => v.held ∈ s.reg.held)
      rw [hsame]
      exact h.accounted
    · exact h.login
    · show ∀ d ∈ s.reg.dvrlistHead,
        Filled s.reg.held (s.previews.filter fun v => v.held ∈ s.reg.held) d
      rw [hsame]
      exact h.filled
    · exact h.users
    · exact h.cached
    · exact h.sources
    · exact fun v hv => h.own v (List.mem_filter.1 hv).1
  · have hfilled := h.filled d (mem_of_lookup hd)
    have hstreams := (hfilled.releases_iff h.accounted h.distinct).2 (hsafe p d rfl hadded hd).2
    obtain ⟨l₁, l₂, hsplit, -, -, herase⟩ := exists_of_lookup hd
    -- the other records have other logins, whose previews and queues stay open
    have hothers : ∀ d' ∈ l₁ ++ l₂, d' ∈ s.reg.dvrlistHead ∧ d'.lUserID ≠ d.lUserID := by
      have hnodup := h.users
      rw [hsplit, List.map_append, List.map_cons, List.nodup_middle, List.nodup_cons,
        ← List.map_append] at hnodup
      intro d' hd'
      refine ⟨?_, fun heq => hnodup.1 (heq ▸ List.mem_map_of_mem hd')⟩
      rw [hsplit]
      exact (List.sublist_append_right [d] l₂ |>.append_left l₁).mem hd'
    have hkeep : ∀ x : Held, x.isStream ∨ x = .login x.lUserID → x.lUserID ≠ d.lUserID →
        (x ∈ s.reg.held.filter (fun x => !d.releases x) ↔ x ∈ s.reg.held) := by
      intro x hkind hne
      rcases hkind with hstream | hlogin
      · rw [hstreams x hstream, and_iff_left hne]
      · rw [List.mem_filter, and_iff_left]
        rw [hlogin]
        exact Bool.not_eq_true' _ ▸ decide_eq_false hne
    constructor
    · exact h.distinct.filter _
    · refine ⟨?_, fun v hv => h.accounted.2 v (List.mem_filter.1 hv).1⟩
      show (s.previews.filter fun v => v.held ∈ s.reg.held.filter fun x => !d.releases x).map
        Preview.held = (s.reg.held.filter fun x => !d.releases x).filter Held.isPlay
      rw [List.filter_comm, ← h.accounted.1, List.filter_map]
      refine congrArg _ (List.filter_congr fun v hv => ?_)
      simp [List.mem_filter, h.accounted.mem hv]
    · intro x hx hstream
      obtain ⟨hmem, hne⟩ := (hstreams x hstream).1 hx
      exact (hkeep (.login x.lUserID) (.inr rfl) hne).2 (h.login x hmem hstream)
    · show ∀ d' ∈ eraseFirst _ _ _, _
      rw [herase]
      intro d' hd'
      obtain ⟨hmem, hne⟩ := hothers d' hd'
      refine (h.filled d' hmem).frame (fun x hkind hx => hkeep x hkind (hx ▸ hne)) fun v hv => ?_
      rw [List.mem_filter, and_iff_left_iff_imp, decide_eq_true_iff]
      have hne' : v.held.lUserID ≠ d.lUserID := fun heq => hne (hv.symm.trans heq)
      exact fun hmem => (hkeep _ (.inl rfl) hne').2 (h.accounted.mem hmem)
    · exact nodup_map_eraseFirst h.users
    · exact h.cached
    · exact h.sources
    · exact fun v hv => h.own v (List.mem_filter.1 hv).1

/-- The queue of a preview that is listed. -/
theorem Streaming.Inv.queue_nonneg (h : s.Inv) (hv : v ∈ s.previews)
    (hlisted : v.Listed s.reg.dvrlistHead) : 0 < v.lChannel ∧ 0 ≤ v.lqueueId := by
  obtain ⟨d, hd, -, hu⟩ := hlisted
  obtain ⟨i, hpos, hchannel, -, hqueue⟩ := (h.filled d hd).preview v hv hu.symm
  rw [← hchannel, ← hqueue]
  refine ⟨hpos, ?_⟩
  rcases (h.filled d hd).slot i with ⟨hoff, -⟩ | ⟨-, hq, -⟩ | ⟨hunused, -⟩
  · omega
  · exact hq
  · omega

/-- What the callback does with a packet of a preview in progress. -/
theorem Streaming.Inv.callback_eq (h : s.Inv) (hv : v ∈ s.previews) (p : Packet) :
    (v.Diverted s.reg.dvrlistHead →
      gRealDataCallBackV30 s.reg.dvrlistHead v.lRealPlayHandle p s.fd =
        realData (0 : ℕ) v.lRealPlayHandle p s.fd) ∧
    (v.Listed s.reg.dvrlistHead → ¬ v.Diverted s.reg.dvrlistHead →
      gRealDataCallBackV30 s.reg.dvrlistHead v.lRealPlayHandle p s.fd =
        realData v.lqueueId v.lRealPlayHandle p s.fd) ∧
    (¬ v.Listed s.reg.dvrlistHead → ¬ v.Diverted s.reg.dvrlistHead →
      gRealDataCallBackV30 s.reg.dvrlistHead v.lRealPlayHandle p s.fd = .ok (s.fd, none)) := by
  obtain ⟨hdiv, hlist, hnone⟩ := findChannel_eq h.accounted h.distinct hv h.filled
  refine ⟨fun hd => ?_, fun hl hd => ?_, fun hl hd => ?_⟩
  · rw [gRealDataCallBackV30, hdiv hd]
    rfl
  · have hpos := (h.queue_nonneg hv hl).1
    rw [gRealDataCallBackV30, hlist hl hd]
    exact if_neg (by dsimp only; omega)
  · rw [gRealDataCallBackV30, hnone hl hd]
    rfl

/-- A packet that is taken to a queue is handled right as long as it completes no frame for the queue
    of another. -/
theorem Streaming.Inv.realData_iff (h : s.Inv) (hv : v ∈ s.previews) (queueid : ℕ) :
    (match realData queueid v.lRealPlayHandle p s.fd with
      | .error _ => False
      | .ok (fd', pushed) => (∀ h', h' ≠ v.lRealPlayHandle → fd' h' = s.fd h') ∧
          ∀ f ∈ pushed, f.queueid = v.lqueueId ∧
            ∀ w ∈ s.sources v.lRealPlayHandle, w.lqueueId = f.queueid) ↔
      p.InBounds v.lRealPlayHandle (s.fd v.lRealPlayHandle).payloads ∧
        (v.lqueueId ≠ queueid → ¬ p.Completes (s.fd v.lRealPlayHandle).payloads) := by
  obtain ⟨hok, hspec⟩ := realData_spec (h.cached v.lRealPlayHandle) queueid p
  rw [hok]
  cases hr : realData queueid v.lRealPlayHandle p s.fd with
  | error e => simp
  | ok r =>
      obtain ⟨hothers, -, hsome, hqueue⟩ := hspec r.1 r.2 hr
      refine Iff.trans (and_iff_right hothers) ?_
      rw [and_iff_right ⟨r, rfl⟩, ← hsome]
      cases hf : r.2 with
      | none => simp
      | some f =>
          have hfq := hqueue f hf
          simp only [Option.mem_some_iff, forall_eq', Option.isSome_some, not_true, imp_false,
            not_not]
          constructor
          · rintro ⟨hown, -⟩
            exact hown.symm.trans hfq
          · intro heq
            refine ⟨hfq.trans heq.symm, fun w hw => ?_⟩
            rw [h.own v hv w hw, hfq, heq]

/-- A packet is handled right exactly when it is safe. -/
theorem Streaming.Inv.packet_iff (h : s.Inv) (hv : v ∈ s.previews) :
    s.Routes (.packet v p) ↔ s.Safe (.packet v p) := by
  obtain ⟨hdiv, hlist, hnone⟩ := h.callback_eq hv p
  rw [Streaming.Routes, Streaming.Safe]
  by_cases hd : v.Diverted s.reg.dvrlistHead
  · rw [hdiv hd, forall_prop_of_true (.inr hd), forall_prop_of_true hd]
    exact h.realData_iff hv 0
  by_cases hl : v.Listed s.reg.dvrlistHead
  · obtain ⟨queueid, hq⟩ := Int.eq_ofNat_of_zero_le (h.queue_nonneg hv hl).2
    have hiff := h.realData_iff (p := p) hv queueid
    rw [hlist hl hd, forall_prop_of_true (.inl hl), hq]
    rw [hq] at hiff
    refine hiff.trans (and_congr_right fun _ => ?_)
    exact iff_of_true (fun hne => absurd rfl hne) fun hd' => absurd hd' hd
  · rw [hnone hl hd]
    refine iff_of_true ⟨fun _ _ => rfl, fun f hf => by cases hf⟩ ?_
    rintro (hl' | hd')
    · exact absurd hl' hl
    · exact absurd hd' hd

theorem Streaming.Inv.packet (h : s.Inv) (hv : v ∈ s.previews)
    (hs : s.handle (.packet v p) = .ok s') : s'.Inv := by
  obtain ⟨⟨fd', f⟩, hcall, rfl⟩ := map_eq_ok_iff.1 hs
  obtain ⟨hothers, since, hholds, hlen⟩ :
      (∀ h', h' ≠ v.lRealPlayHandle → fd' h' = s.fd h') ∧
        ∃ since, (fd' v.lRealPlayHandle).Holds since ∧ (fd' v.lRealPlayHandle).m_mFrameCacheLenth ≤
          (s.fd v.lRealPlayHandle).m_mFrameCacheLenth + 1 := by
    obtain ⟨hdiv, hlist, hnone⟩ := h.callback_eq hv p
    have hrow := h.cached v.lRealPlayHandle
    by_cases hd : v.Diverted s.reg.dvrlistHead
    · rw [hdiv hd] at hcall
      obtain ⟨hothers, hrow', -⟩ := (realData_spec hrow 0 p).2 fd' f hcall
      exact ⟨hothers, hrow'⟩
    by_cases hl : v.Listed s.reg.dvrlistHead
    · obtain ⟨queueid, hq⟩ := Int.eq_ofNat_of_zero_le (h.queue_nonneg hv hl).2
      rw [hlist hl hd, hq] at hcall
      obtain ⟨hothers, hrow', -⟩ := (realData_spec hrow queueid p).2 fd' f hcall
      exact ⟨hothers, hrow'⟩
    · rw [hnone hl hd] at hcall
      cases hcall
      exact ⟨fun _ _ => rfl, _, hrow, Nat.le_succ _⟩
  have hlength := h.sources v.lRealPlayHandle
  constructor
  · exact h.distinct
  · exact h.accounted
  · exact h.login
  · exact h.filled
  · exact h.users
  · intro h'
    by_cases hne : h' = v.lRealPlayHandle
    · subst hne
      exact hholds.payloads_eq ▸ hholds
    · show (fd' h').Holds (fd' h').payloads
      rw [hothers h' hne]
      exact h.cached h'
  · intro h'
    by_cases hne : h' = v.lRealPlayHandle
    · subst hne
      simp only [Function.update_self]
      split
      · rw [List.length_append, List.length_singleton]
        omega
      · rw [List.length_take]
        omega
    · simp only [Function.update_of_ne hne, hothers h' hne]
      exact h.sources h'
  · intro w hw x hx
    by_cases hne : w.lRealPlayHandle = v.lRealPlayHandle
    · obtain rfl := h.accounted.eq h.distinct hw hv hne
      simp only [Function.update_self] at hx
      split at hx
      · rcases List.mem_append.1 hx with hx | hx
        · exact h.own w hw x hx
        · exact List.mem_singleton.1 hx
      · exact h.own w hw x (List.mem_of_mem_take hx)
    · simp only [Function.update_of_ne hne] at hx
      exact h.own w hw x hx

/-! ## Runs -/

theorem Streaming.Inv.step (h : s.Inv) (hsafe : s.Safe e) (hs : s.step e s') : s'.Inv := by
  cases e with
  | deviceAdd devInfo re junk => exact h.add hs.1 hsafe hs.2
  | deviceDel devInfo junk => exact h.del hsafe hs.2
  | packet v p => exact h.packet hs.1 hs.2

/-- **Packets find their queue.** After any sequence of adds, deletes and packets that were safe, the
    next event is handled right exactly when it is safe. -/
theorem streams_routed_iff {Dvrlist : Option (List DvrConf)} {tr : List StreamEvent}
    (h : Run (stepWhen Streaming.Safe Streaming.step) (.init Dvrlist) tr s) (hposs : s.Possible e) :
    s.Routes e ↔ s.Safe e := by
  have hinv : s.Inv := h.stateInvariant Streaming.Inv (Streaming.inv_init Dvrlist)
    fun s e s' hI hs => hI.step hs.1 hs.2
  cases e with
  | deviceAdd devInfo re junk => exact hinv.add_iff
  | deviceDel devInfo junk => exact hinv.del_iff
  | packet v p => exact hinv.packet_iff hposs

/-! ## Two NVRs -/

/-- An NVR with one camera, by its login and the handle and queue that it gets. -/
def cameraNvr (lUserID : ℤ) (serial : DvrString) (lRealPlayHandle queueid : ℤ) : Replies :=
  { bareNvr lUserID serial with
    IpcamCfg := ⟨1, 0, fun _ => ⟨1, 1, 0⟩, fun _ => emptyArray _, one_le_netIpcMaxNum⟩
    lRealPlayHandle := fun _ => lRealPlayHandle
    queueid := fun _ => queueid }

/-- NVR `A` with its camera is added. -/
def addCamera : StreamEvent :=
  .deviceAdd (some (requestOf (letter 65))) (cameraNvr 0 (letter 65) 0 1) (fun _ => emptyArray _)

/-- NVR `B` with its camera is added. -/
def addSecond : StreamEvent :=
  .deviceAdd (some (requestOf (letter 66))) (cameraNvr 1 (letter 66) 1 2) (fun _ => emptyArray _)

/-- NVR `B` without cameras is added. -/
def addBare : StreamEvent :=
  .deviceAdd (some (requestOf (letter 66))) (bareNvr 1 (letter 66)) (fun _ => emptyArray _)

/-- NVR `A` is deleted. -/
def deleteFirst : StreamEvent := .deviceDel (some (requestOf (letter 65))) (fun _ => emptyArray _)

/-- The steps of adds and deletes, by evaluation. -/
def Streaming.addFn (s : Streaming) : StreamEvent → Option Streaming
  | .deviceAdd devInfo re junk =>
      match s.handle (.deviceAdd devInfo re junk) with
      | .error _ => none
      | .ok s' => if Distinct s'.reg.held then some s' else none
  | .deviceDel devInfo junk => (s.handle (.deviceDel devInfo junk)).toOption
  | .packet _ _ => none

theorem Streaming.step_of_addFn (s : Streaming) (e : StreamEvent) (s' : Streaming)
    (h : s.addFn e = some s') : s.step e s' := by
  cases e with
  | deviceAdd devInfo re junk =>
      rw [addFn] at h
      split at h
      · cases h
      · next s₁ hs =>
          split at h
          · next hdist =>
              cases h
              refine ⟨fun s₂ hs₂ => ?_, hs⟩
              rw [hs] at hs₂
              cases hs₂
              exact hdist
          · cases h
  | deviceDel devInfo junk =>
      rw [addFn] at h
      cases hs : s.handle (.deviceDel devInfo junk) with
      | error e =>
          rw [hs] at h
          cases h
      | ok s₁ =>
          rw [hs] at h
          cases h
          exact ⟨trivial, hs⟩
  | packet v p => cases h

/-- As long as no packet has come, an add is safe when there is room in the configuration. -/
theorem Streaming.safe_of_idle (hidle : s.fd = .zero) (hfits : DvrlistFits s.reg.Dvrlist)
    {devInfo : Option HKDVRParam} {re : Replies} {junk : ℕ → DvrString} :
    s.Safe (.deviceAdd devInfo re junk) := by
  refine fun _ _ _ _ => ⟨fun _ => hfits, fun v _ => ?_⟩
  rw [hidle]
  rfl

/-- Adds and deletes leave the cache alone. -/
theorem Streaming.fd_of_addFn {e : StreamEvent} (h : s.addFn e = some s') : s'.fd = s.fd := by
  have hstep := (step_of_addFn s e s' h).2
  cases e with
  | deviceAdd devInfo re junk =>
      obtain ⟨r, -, rfl⟩ := map_eq_ok_iff.1 hstep
      rfl
  | deviceDel devInfo junk =>
      obtain ⟨r, -, rfl⟩ := map_eq_ok_iff.1 hstep
      rfl
  | packet v p => cases h

set_option maxRecDepth 2000 in
/-- `A` and `B` are added and `A` is deleted; then a packet of the camera of `B` comes. -/
theorem streams_routed_second :
    ∃ s, Run (stepWhen Streaming.Safe Streaming.step) (.init (some [])) [addCamera, addSecond, deleteFirst] s ∧
      s.Routes (.packet ⟨1, 1, 1, 2⟩ samplePack) := by
  obtain ⟨s₁, h₁, hfits₁, s₂, h₂, hfits₂, hown, s₃, h₃, hpreviews⟩ :
      ∃ s₁, (Streaming.init (some [])).addFn addCamera = some s₁ ∧ DvrlistFits s₁.reg.Dvrlist ∧
      ∃ s₂, s₁.addFn addSecond = some s₂ ∧ DvrlistFits s₂.reg.Dvrlist ∧
        ((lookup HkSdkDeviceInfo.lDvrSerialNumber (letter 65) s₂.reg.dvrlistHead).map
          HkSdkDeviceInfo.lUserID = some 0 ∧
          s₂.reg.held.filter Held.isStream =
            [.realPlay 0 0, .queue 1 0, .realPlay 1 1, .queue 2 1]) ∧
      ∃ s₃, s₂.addFn deleteFirst = some s₃ ∧ s₃.previews = [⟨1, 1, 1, 2⟩] := by
    decide
  have hfd₁ : s₁.fd = .zero := Streaming.fd_of_addFn h₁
  have hfd₂ : s₂.fd = .zero := (Streaming.fd_of_addFn h₂).trans hfd₁
  have hfd₃ : s₃.fd = .zero := (Streaming.fd_of_addFn h₃).trans hfd₂
  have hsafe : s₂.Safe deleteFirst := by
    rintro p d hp - hd
    cases hp
    have huser : d.lUserID = 0 := by
      have hown' := hown.1
      rw [show lookup HkSdkDeviceInfo.lDvrSerialNumber (letter 65) s₂.reg.dvrlistHead = some d from hd]
        at hown'
      exact Option.some.inj hown'
    have hmem : ∀ x ∈ s₂.reg.held, x.isStream → x ∈ s₂.reg.held.filter Held.isStream :=
      fun x hx hstream => List.mem_filter.2 ⟨hx, hstream⟩
    rw [hown.2] at hmem
    refine ⟨hfits₂, fun _ => ⟨fun u hu => ?_, fun u hu => ?_⟩⟩
    · simpa [huser] using hmem _ hu rfl
    · simpa using hmem _ hu rfl
  have hrun : Run (stepWhen Streaming.Safe Streaming.step) (.init (some []))
      [addCamera, addSecond, deleteFirst] s₃ :=
    ((Run.nil.snoc ⟨Streaming.safe_of_idle rfl (by decide), Streaming.step_of_addFn _ _ _ h₁⟩).snoc
      ⟨Streaming.safe_of_idle hfd₁ hfits₁, Streaming.step_of_addFn _ _ _ h₂⟩).snoc
      ⟨hsafe, Streaming.step_of_addFn _ _ _ h₃⟩
  have hmem : (⟨1, 1, 1, 2⟩ : Preview) ∈ s₃.previews := by
    rw [hpreviews]
    exact List.mem_cons_self
  have hiff := streams_routed_iff (e := .packet ⟨1, 1, 1, 2⟩ samplePack) hrun hmem
  refine ⟨s₃, hrun, hiff.2 fun _ => ⟨fun _ => ?_, ?_⟩⟩
  · rw [hfd₃]
    exact ⟨by decide, by decide, fun _ => ⟨by decide, fun _ => Nat.le_refl _⟩⟩
  · rintro ⟨hzero, -⟩
    exact absurd hzero (by decide)

/-- Deleting `B`, which has no cameras, closes the preview of `A`. -/
theorem delete_closes_other : ∃ s, Run Streaming.step (.init (some [])) [addCamera, addBare] s ∧
    ¬ s.Routes (.deviceDel (some (requestOf (letter 66))) (fun _ => emptyArray _)) := by
  obtain ⟨s, hrun, hadded, hlookup, hfits, hplay⟩ : ∃ s,
      Run Streaming.step (.init (some [])) [addCamera, addBare] s ∧
        (s.reg.isAdded id (requestOf (letter 66)) = true ∧
          lookup HkSdkDeviceInfo.lDvrSerialNumber (letter 66) s.reg.dvrlistHead =
            some (bareRecord 1 (letter 66)) ∧
          DvrlistFits s.reg.Dvrlist ∧ .realPlay 0 0 ∈ s.reg.held) :=
    Run.exists_of_eval Streaming.step_of_addFn (by decide)
  refine ⟨s, hrun, fun hroutes => ?_⟩
  obtain ⟨conf, hconf⟩ : ∃ conf, hkDvrListConfigDel (fun _ => emptyArray _) (requestOf (letter 66))
      s.reg.Dvrlist = .ok conf := editConf_ok_iff.2 hfits
  rw [Streaming.Routes, hksdkDeviceDel] at hroutes
  simp only [hadded, if_true, id_eq] at hroutes
  rw [show (requestOf (letter 66)).serial = letter 66 from rfl, hlookup, hconf] at hroutes
  obtain ⟨p, d, hp, hd, hall⟩ :=
    (if_pos rfl : (if keyTrue = keyTrue then _ else _) = _).mp hroutes
  cases hp
  obtain rfl := Option.some.inj (hlookup.symm.trans hd)
  -- the handle of `A` is in an unused slot of `B`
  have hstays := (hall (.realPlay 0 0) rfl).2 ⟨hplay, by decide⟩
  exact absurd (List.mem_filter.1 hstays).2 (by decide)

end SmartPlat.HkSdkManage
