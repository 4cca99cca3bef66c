import SmartPlat.Rtmp.RtmpProc
import SmartPlat.Rtmp.Proofs.Readers

set_option autoImplicit false

/-! # RTMP: cameras, elements and threads

Elements are found by the index of a camera in its NVR, by channel, and by channel and serial number.
As long as the three agree, each camera has one thread, on its own element. They agree when no two NVRs
have a camera of the same index at start-up and no element in front of a camera's own carries the same
channel when the thread looks for it. -/

namespace SmartPlat.Rtmp

open SmartPlat.Lib SmartPlat.MediaQueue SmartPlat.HkSdkManage

variable {s s' : RtmpState} {k k' : ℕ} {t t' : RtmpThread} {c : Camera} {i : Fin rtmpUsrNum}

@[simp] theorem streams_iff {pc : ProcPc} : pc.streams ↔ pc ≠ .unRegist ∧ pc ≠ .ended := .rfl

/-! ## The property and the condition -/

/-- Each camera has exactly one thread, the thread works on the element of its camera, and no two
    threads share an element or a media queue. -/
structure Bound (s : RtmpState) : Prop where
  one : ∀ c ∈ s.cameras, ∃! k, ∃ t, s.threads k = some t ∧ t.streams ∧ t.camera.pair = c.pair
  works : ∀ k t i pc mediaHandle, s.threads k = some t → t.streams →
    t.work = .running i pc mediaHandle → t.camera ∈ s.cameras →
    (s.rtmpUser i).SerialNumber = t.camera.serial ∧ (s.rtmpUser i).channel = t.camera.channel ∧
      (s.rtmpUser i).queueid = t.camera.queueid
  slots : ∀ k k' t t' i i' pc pc' mediaHandle mediaHandle', s.threads k = some t → t.streams →
    s.threads k' = some t' → t'.streams → t.work = .running i pc mediaHandle →
    t'.work = .running i' pc' mediaHandle' → k ≠ k' → i ≠ i' ∧
      ((s.rtmpUser i).enable = 1 → (s.rtmpUser i').enable = 1 →
        (s.rtmpUser i).queueid ≠ (s.rtmpUser i').queueid)

/-- A camera that is new to the table: its channel is not negative, no element carries its channel and
    serial number, and no element that is switched on has its media queue. -/
structure FreshCamera (s : RtmpState) (c : Camera) : Prop where
  channel : 0 ≤ c.channel
  pair : ∀ i, ¬ ((s.rtmpUser i).channel = c.channel ∧ (s.rtmpUser i).SerialNumber = c.serial)
  queue : ∀ i, (s.rtmpUser i).enable = 1 → (s.rtmpUser i).queueid ≠ c.queueid

/-- The queue exists and a reader slot of it is free. -/
def FreeReader (queueHandle : QueueTable) (queueID : ℤ) : Prop :=
  ∃ (q : Fin queueChnMax) (i : Fin queueUseMax), queueID = q.val ∧
    (queueHandle q).enabled = true ∧ (queueHandle q).pRead i = none

/-- What keeps the bindings. -/
def Proper (s : RtmpState) : CameraEvent → Prop
  | .camera ok => ∀ c, dvrCamera s.dvrParam s.dvrIndex s.ipcIndex = some c →
      s.dvrIndex < s.dvrNum ∧ ok = true ∧ (s.rtmpUser (ipcUser s.ipcIndex)).channel = -1 ∧
        FreshCamera s c
  | .ready => s.dvrNum ≤ netNvrMaxNum
  | .start k => ∀ t, s.threads k = some t → ∀ i < t.own, (s.rtmpUser i).channel ≠ t.arg
  | .run k _ => ∀ t i mediaHandle, s.threads k = some t →
      t.work = .running i .regist mediaHandle → (s.rtmpUser i).enable = 1 →
        FreeReader s.queueHandle mediaHandle.queueID
  | .add param ok => ok = true ∧ FreshCamera s (optCamera param) ∧
      ∃ i, (s.rtmpUser i).channel = -1 ∧ (s.rtmpUser i).SerialNumber.str.strlen = 0
  | .setSerconfig | .del _ | .others => True

/-! ## The invariant -/

structure BindInv (s : RtmpState) : Prop where
  fresh : ∀ k, s.next ≤ k → s.threads k = none
  /-- The element of a thread carries its camera. -/
  elem : ∀ k t, s.threads k = some t → t.streams → t.arg = t.camera.channel ∧
    0 ≤ t.camera.channel ∧ (s.rtmpUser t.own).channel = t.camera.channel ∧
    (s.rtmpUser t.own).SerialNumber = t.camera.serial ∧
    ((s.rtmpUser t.own).enable = 1 → (s.rtmpUser t.own).queueid = t.camera.queueid)
  bound : ∀ k t i pc mediaHandle, s.threads k = some t → t.work = .running i pc mediaHandle →
    i = t.own ∧ (pc = .reset → (s.rtmpUser t.own).enable ≠ 1)
  apart : ∀ k k' t t', s.threads k = some t → t.streams → s.threads k' = some t' → t'.streams →
    k ≠ k' → t.own ≠ t'.own ∧ t.camera.pair ≠ t'.camera.pair ∧
      ((s.rtmpUser t.own).enable = 1 → (s.rtmpUser t'.own).enable = 1 →
        t.camera.queueid ≠ t'.camera.queueid)
  served : ∀ c ∈ s.cameras, ∃ k t, s.threads k = some t ∧ t.streams ∧ t.camera = c ∧
    (s.rtmpUser t.own).enable = 1

theorem bindInv_init (dvrParam : ℕ → HKDVRParam) (dvrNum : ℕ) (queueHandle : QueueTable) :
    BindInv (rtmpParamInit dvrParam dvrNum queueHandle) where
  fresh _ _ := rfl
  elem _ _ hk := nomatch hk
  bound _ _ _ _ _ hk := nomatch hk
  apart _ _ _ _ hk := nomatch hk
  served _ hc := nomatch hc

theorem BindInv.toBound (h : BindInv s) : Bound s where
  one c hc := by
    obtain ⟨k, t, hk, hstreams, rfl, -⟩ := h.served c hc
    refine ⟨k, ⟨t, hk, hstreams, rfl⟩, fun k' ⟨t', hk', hstreams', hpair⟩ => ?_⟩
    by_contra hne
    exact (h.apart k' k t' t hk' hstreams' hk hstreams hne).2.1 hpair
  works k t i pc mediaHandle hk hstreams hwork hc := by
    obtain ⟨rfl, -⟩ := h.bound k t i pc mediaHandle hk hwork
    obtain ⟨-, -, hchannel, hserial, hqueue⟩ := h.elem k t hk hstreams
    refine ⟨hserial, hchannel, hqueue ?_⟩
    obtain ⟨k', t', hk', hstreams', hcam, henable⟩ := h.served _ hc
    obtain rfl : k = k' := by
      by_contra hne
      exact (h.apart k k' t t' hk hstreams hk' hstreams' hne).2.1 (by rw [hcam])
    obtain rfl := Option.some.inj (hk.symm.trans hk')
    exact henable
  slots k k' t t' i i' pc pc' mh mh' hk hstreams hk' hstreams' hwork hwork' hne := by
    obtain ⟨rfl, -⟩ := h.bound k t i pc mh hk hwork
    obtain ⟨rfl, -⟩ := h.bound k' t' i' pc' mh' hk' hwork'
    obtain ⟨hown, -, hqueue⟩ := h.apart k k' t t' hk hstreams hk' hstreams' hne
    refine ⟨hown, fun hen hen' => ?_⟩
    rw [(h.elem k t hk hstreams).2.2.2.2 hen, (h.elem k' t' hk' hstreams').2.2.2.2 hen']
    exact hqueue hen hen'

/-- Threads that are where they were, on elements that carry what they carried. -/
theorem BindInv.step (h : BindInv s) (hnext : s'.next = s.next)
    (hthread : ∀ k t', s'.threads k = some t' → ∃ t, s.threads k = some t ∧ t'.arg = t.arg ∧
      t'.own = t.own ∧ t'.camera = t.camera ∧ (t'.streams → t.streams) ∧
      ∀ i pc mediaHandle, t'.work = .running i pc mediaHandle →
        i = t.own ∧ (pc = .reset → (s'.rtmpUser t.own).enable ≠ 1))
    (helem : ∀ k t', s'.threads k = some t' → t'.streams →
      (s'.rtmpUser t'.own).channel = (s.rtmpUser t'.own).channel ∧
      (s'.rtmpUser t'.own).SerialNumber = (s.rtmpUser t'.own).SerialNumber ∧
      ((s'.rtmpUser t'.own).enable = 1 → (s.rtmpUser t'.own).enable = 1 ∧
        (s'.rtmpUser t'.own).queueid = (s.rtmpUser t'.own).queueid))
    (hserved : ∀ c ∈ s'.cameras, ∃ k t, s'.threads k = some t ∧ t.streams ∧ t.camera = c ∧
      (s'.rtmpUser t.own).enable = 1) : BindInv s' where
  fresh k hk := by
    cases hk' : s'.threads k with
    | none => rfl
    | some t' =>
        obtain ⟨t, ht, -⟩ := hthread k t' hk'
        rw [h.fresh k (hnext ▸ hk)] at ht
        cases ht
  elem k t' hk hstreams := by
    obtain ⟨t, ht, harg, hown, hcam, hst, -⟩ := hthread k t' hk
    obtain ⟨hch, hser, hen⟩ := helem k t' hk hstreams
    obtain ⟨e₁, e₂, e₃, e₄, e₅⟩ := h.elem k t ht (hst hstreams)
    rw [hown] at hch hser hen ⊢
    rw [harg, hcam]
    exact ⟨e₁, e₂, hch.trans e₃, hser.trans e₄, fun h1 => (hen h1).2.trans (e₅ (hen h1).1)⟩
  bound k t' i pc mediaHandle hk hwork := by
    obtain ⟨t, -, -, hown, -, -, hrun⟩ := hthread k t' hk
    rw [hown]
    exact hrun i pc mediaHandle hwork
  apart k₁ k₂ t₁' t₂' hk₁ hst₁ hk₂ hst₂ hne := by
    obtain ⟨t₁, ht₁, -, hown₁, hcam₁, hs₁, -⟩ := hthread k₁ t₁' hk₁
    obtain ⟨t₂, ht₂, -, hown₂, hcam₂, hs₂, -⟩ := hthread k₂ t₂' hk₂
    obtain ⟨a₁, a₂, a₃⟩ := h.apart k₁ k₂ t₁ t₂ ht₁ (hs₁ hst₁) ht₂ (hs₂ hst₂) hne
    refine ⟨by rwa [hown₁, hown₂], by rwa [hcam₁, hcam₂], fun hen₁ hen₂ => ?_⟩
    have hold₁ := ((helem k₁ t₁' hk₁ hst₁).2.2 hen₁).1
    have hold₂ := ((helem k₂ t₂' hk₂ hst₂).2.2 hen₂).1
    rw [hown₁] at hold₁
    rw [hown₂] at hold₂
    rw [hcam₁, hcam₂]
    exact a₃ hold₁ hold₂
  served := hserved

/-- Only the table, the threads and the cameras matter. -/
theorem BindInv.congr (h : BindInv s) (huser : s'.rtmpUser = s.rtmpUser)
    (hthreads : s'.threads = s.threads) (hnext : s'.next = s.next)
    (hcameras : s'.cameras = s.cameras) : BindInv s' := by
  obtain ⟨h₁, h₂, h₃, h₄, h₅⟩ := h
  refine ⟨?_, ?_, ?_, ?_, ?_⟩ <;> rw [hthreads]
  · rwa [hnext]
  · rwa [huser]
  · rwa [huser]
  · rwa [huser]
  · rwa [huser, hcameras]

theorem thread_cases {threads : ℕ → Option RtmpThread}
    (hk : Function.update threads k (some t) k' = some t') :
    k' = k ∧ t' = t ∨ k' ≠ k ∧ threads k' = some t' := by
  by_cases hkk : k' = k
  · subst hkk
    rw [Function.update_self] at hk
    exact .inl ⟨rfl, (Option.some.inj hk).symm⟩
  · rw [Function.update_of_ne hkk] at hk
    exact .inr ⟨hkk, hk⟩

theorem BindInv.own_ne_free (h : BindInv s) (hk : s.threads k = some t) (hstreams : t.streams)
    (hfree : (s.rtmpUser i).channel = -1) : t.own ≠ i := by
  rintro rfl
  obtain ⟨-, hpos, hchannel, -⟩ := h.elem k t hk hstreams
  omega

/-- A new camera in a free element, with a thread of its own. -/
theorem BindInv.fill (h : BindInv s) (hfree : (s.rtmpUser i).channel = -1) (hf : FreshCamera s c) :
    BindInv (RtmpState.fill { s with cameras := c :: s.cameras } i c true) := by
  -- the camera of a thread that was there before is another one, on another element
  have hother : ∀ {k t}, s.threads k = some t → t.streams → t.own ≠ i ∧ t.camera.pair ≠ c.pair ∧
      ((s.rtmpUser t.own).enable = 1 → t.camera.queueid ≠ c.queueid) := by
    intro k t hk hstreams
    obtain ⟨-, -, hchannel, hserial, hqueue⟩ := h.elem k t hk hstreams
    refine ⟨h.own_ne_free hk hstreams hfree, fun hpair => hf.pair t.own ?_, fun hen => ?_⟩
    · rw [Camera.pair, Camera.pair, Prod.mk.injEq] at hpair
      exact ⟨hchannel.trans hpair.2, hserial.trans hpair.1⟩
    · rw [← hqueue hen]
      exact hf.queue t.own hen
  refine ⟨fun k hk => ?_, fun k t hk hst => ?_, fun k t j pc mh hk hwork => ?_,
    fun k k' t t' hk hst hk' hst' hne => ?_, fun c' hc' => ?_⟩
  · change s.next + 1 ≤ k at hk
    have hn : k ≠ s.next := by omega
    exact (Function.update_of_ne hn _ _).trans (h.fresh k (by omega))
  · rcases thread_cases hk with ⟨rfl, rfl⟩ | ⟨-, hk₀⟩
    · simp only [RtmpState.fill, Function.update_self]
      exact ⟨trivial, hf.channel, trivial, trivial, fun _ => trivial⟩
    · simp only [RtmpState.fill, Function.update_of_ne (hother hk₀ hst).1]
      exact h.elem k t hk₀ hst
  · rcases thread_cases hk with ⟨rfl, rfl⟩ | ⟨-, hk₀⟩
    · cases hwork
    · obtain ⟨hj, hreset⟩ := h.bound k t j pc mh hk₀ hwork
      refine ⟨hj, fun hpc => ?_⟩
      have hst : t.streams := by
        rw [RtmpThread.streams, hwork, hpc]
        exact ⟨nofun, nofun⟩
      simp only [RtmpState.fill, Function.update_of_ne (hother hk₀ hst).1]
      exact hreset hpc
  · rcases thread_cases hk with ⟨rfl, rfl⟩ | ⟨-, hk₀⟩ <;> rcases thread_cases hk' with ⟨rfl, rfl⟩ | ⟨-, hk₀'⟩
    · exact absurd rfl hne
    · obtain ⟨hown, hpair, hqueue⟩ := hother hk₀' hst'
      simp only [RtmpState.fill, Function.update_of_ne hown]
      exact ⟨hown.symm, hpair.symm, fun _ hen => (hqueue hen).symm⟩
    · obtain ⟨hown, hpair, hqueue⟩ := hother hk₀ hst
      simp only [RtmpState.fill, Function.update_of_ne hown]
      exact ⟨hown, hpair, fun hen _ => hqueue hen⟩
    · simp only [RtmpState.fill, Function.update_of_ne (hother hk₀ hst).1,
        Function.update_of_ne (hother hk₀' hst').1]
      exact h.apart k k' t t' hk₀ hst hk₀' hst' hne
  · rcases List.mem_cons.1 hc' with rfl | hmem
    · refine ⟨s.next, ⟨c'.channel, .starting, i, c'⟩, Function.update_self _ _ _, trivial, rfl, ?_⟩
      simp only [RtmpState.fill, Function.update_self]
    · obtain ⟨k, t, hk, hst, hcam, hen⟩ := h.served c' hmem
      have hn : k ≠ s.next := by
        rintro rfl
        rw [h.fresh s.next le_rfl] at hk
        cases hk
      refine ⟨k, t, (Function.update_of_ne hn _ _).trans hk, hst, hcam, ?_⟩
      simp only [RtmpState.fill, Function.update_of_ne (hother hk hst).1]
      exact hen

/-! ## Steps of a thread -/

/-- What a step of a thread that does not clear its element leaves: the element but for `stat`; the
    thread is in front of the clearing only when it has seen the camera switched off, and stops only
    when a registration is turned down. -/
structure ElementKept (p p' : ProcState) : Prop where
  channel : p'.user.channel = p.user.channel
  serial : p'.user.SerialNumber = p.user.SerialNumber
  enable : p'.user.enable = p.user.enable
  queueid : p'.user.queueid = p.user.queueid
  seen : p'.pc = .reset → p.user.enable ≠ 1
  back : p'.pc.streams → p.pc.streams
  goesOn : p.pc.streams → p'.pc.streams ∨
    p.pc = .regist ∧ ¬ FreeReader p.queueHandle p.mediaHandle.queueID

variable {p p' : ProcState} {e : ProcEvent}

/-- A step inside the loops. -/
theorem elementKept_loop (huser : p'.user = p.user ∨ ∃ stat, p'.user = { p.user with stat := stat })
    (hpc : p.pc.streams) (hpc' : p'.pc.streams) (hseen : p'.pc = .reset → p.user.enable ≠ 1) :
    ElementKept p p' := by
  rcases huser with huser | ⟨stat, huser⟩
  · exact ⟨by rw [huser], by rw [huser], by rw [huser], by rw [huser], hseen, fun _ => hpc,
      fun _ => .inl hpc'⟩
  · exact ⟨by rw [huser], by rw [huser], by rw [huser], by rw [huser], hseen, fun _ => hpc,
      fun _ => .inl hpc'⟩

/-- A step behind the loops. -/
theorem elementKept_behind (huser : p'.user = p.user) (hended : p'.pc = .ended)
    (hpc : p.pc.streams → p.pc = .regist ∧ ¬ FreeReader p.queueHandle p.mediaHandle.queueID) :
    ElementKept p p' := by
  have hstop : ¬ p'.pc.streams := fun hst => hst.2 hended
  refine ⟨by rw [huser], by rw [huser], by rw [huser], by rw [huser], fun hreset => ?_,
    fun hst => absurd hst hstop, fun hst => .inr (hpc hst)⟩
  cases hended.symm.trans hreset

theorem ProcStep.effect (h : ProcStep p e p') :
    p.pc = .reset ∧ p'.pc = .unRegist ∧ p'.user = p.user.cleared ∨ ElementKept p p' := by
  have hon : ∀ {pc : ProcPc}, p.pc = pc → pc.streams → p.pc.streams := fun hpc hst => hpc ▸ hst
  cases h with
  | enter hpc _ => exact .inr (elementKept_loop (.inl rfl) (hon hpc (by simp)) (by simp) (by simp))
  | exit hpc hen =>
      exact .inr (elementKept_loop (.inl rfl) (hon hpc (by simp)) (by simp) fun _ => hen)
  | connect hpc =>
      refine .inr (elementKept_loop (.inl rfl) (hon hpc (by simp)) ?_ ?_)
      · dsimp only
        split <;> simp
      · dsimp only
        split <;> simp
  | sendMeta hpc =>
      refine .inr (elementKept_loop (.inl rfl) (hon hpc (by simp)) ?_ ?_)
      · dsimp only
        split <;> simp
      · dsimp only
        split <;> simp
  | load hpc => exact .inr (elementKept_loop (.inl rfl) (hon hpc (by simp)) (by simp) (by simp))
  | regist hpc _ _ => exact .inr (elementKept_loop (.inl rfl) (hon hpc (by simp)) (by simp) (by simp))
  | refused hpc hreg hr =>
      refine .inr (elementKept_behind rfl rfl fun _ => ⟨hpc, fun ⟨q, i, hq, henabled, hfree⟩ => ?_⟩)
      have htaken := registReadHandle_refused hreg hr hq henabled i
      rw [hfree] at htaken
      cases htaken
  | connected hpc =>
      exact .inr (elementKept_loop (.inr ⟨_, rfl⟩) (hon hpc (by simp)) (by simp) (by simp))
  | leave hpc _ => exact .inr (elementKept_loop (.inl rfl) (hon hpc (by simp)) (by simp) (by simp))
  | noReader hpc _ _ _ =>
      exact .inr (elementKept_loop (.inl rfl) (hon hpc (by simp)) (hon hpc (by simp)) (by simp [hpc]))
  | pull hpc _ _ _ _ _ _ =>
      refine .inr (elementKept_loop ?_ (hon hpc (by simp)) (hon hpc (by simp)) (by simp [hpc]))
      dsimp only
      split
      · exact .inr ⟨_, rfl⟩
      · exact .inl rfl
  | reset hpc => exact .inl ⟨hpc, rfl, rfl⟩
  | unRegist hpc _ => exact .inr (elementKept_behind rfl rfl fun hst => absurd hpc hst.1)

/-- A step of a thread, on its own element. -/
theorem BindInv.run {i : Fin rtmpUsrNum} {pc : ProcPc} {mediaHandle : MediaQueueRegistHandle}
    (h : BindInv s) (hk : s.threads k = some t) (hwork : t.work = .running i pc mediaHandle)
    (hcond : Proper s (.run k e))
    (hstep : ProcStep ⟨s.rtmpUser i, pc, mediaHandle, s.queueHandle⟩ e p') :
    BindInv { s with
      rtmpUser := Function.update s.rtmpUser i p'.user
      threads := Function.update s.threads k
        (some { t with work := .running i p'.pc p'.mediaHandle })
      queueHandle := p'.queueHandle } := by
  obtain ⟨rfl, hreset⟩ := h.bound k t i pc mediaHandle hk hwork
  have hstreams : t.streams ↔ pc.streams := by rw [RtmpThread.streams, hwork]
  have heffect := hstep.effect
  have henable : ∀ j, (Function.update s.rtmpUser t.own p'.user j).enable
      = (s.rtmpUser j).enable := by
    intro j
    by_cases hj : j = t.own
    · subst hj
      rw [Function.update_self]
      rcases heffect with ⟨-, -, huser⟩ | hkept
      · rw [huser]
        rfl
      · exact hkept.enable
    · rw [Function.update_of_ne hj]
  refine h.step rfl (fun k' t' hk' => ?_) (fun k' t' hk' hst' => ?_) fun c hc => ?_
  · rcases thread_cases hk' with ⟨rfl, rfl⟩ | ⟨-, hk₀⟩
    · refine ⟨t, hk, rfl, rfl, rfl, fun hst' => hstreams.2 ?_, fun j pc' mh' hw => ?_⟩
      · rcases heffect with ⟨hpc, -, -⟩ | hkept
        · dsimp only at hpc
          simp [hpc]
        · exact hkept.back hst'
      · cases hw
        refine ⟨rfl, fun hpc' => ?_⟩
        dsimp only
        rw [henable]
        rcases heffect with ⟨-, hpc, -⟩ | hkept
        · cases hpc.symm.trans hpc'
        · exact hkept.seen hpc'
    · refine ⟨t', hk₀, rfl, rfl, rfl, id, fun j pc' mh' hw => ?_⟩
      obtain ⟨hj, hres⟩ := h.bound k' t' j pc' mh' hk₀ hw
      exact ⟨hj, fun hpc' => (henable t'.own).trans_ne (hres hpc')⟩
  · dsimp only at hk' ⊢
    rcases heffect with ⟨hpc, hpc', -⟩ | hkept
    · -- the thread itself has left, and no other one is on its element
      have hown : t'.own ≠ t.own := by
        rcases thread_cases hk' with ⟨rfl, rfl⟩ | ⟨hkk, hk₀⟩
        · exact absurd hpc' hst'.1
        · refine (h.apart k' k t' t hk₀ hst' hk (hstreams.2 ?_) hkk).1
          dsimp only at hpc
          simp [hpc]
      rw [Function.update_of_ne hown]
      exact ⟨rfl, rfl, fun hen => ⟨hen, rfl⟩⟩
    · -- a thread that goes on leaves the channel and the serial number of its element alone
      by_cases hown : t'.own = t.own
      · rw [hown, Function.update_self]
        exact ⟨hkept.channel, hkept.serial, fun hen => ⟨hkept.enable ▸ hen, hkept.queueid⟩⟩
      · rw [Function.update_of_ne hown]
        exact ⟨rfl, rfl, fun hen => ⟨hen, rfl⟩⟩
  · obtain ⟨k', t', hk', hst', hcam, hen⟩ := h.served c hc
    dsimp only
    by_cases hkk : k' = k
    · subst hkk
      obtain rfl := Option.some.inj (hk.symm.trans hk')
      refine ⟨k', _, Function.update_self _ _ _, ?_, hcam, (henable _).trans hen⟩
      rcases heffect with ⟨hpc, -, -⟩ | hkept
      · exact absurd hen (hreset hpc)
      · rcases hkept.goesOn (hstreams.1 hst') with hgo | ⟨hpc, hnone⟩
        · exact hgo
        · dsimp only at hpc
          subst hpc
          exact absurd (hcond t t.own mediaHandle hk hwork hen) hnone
    · exact ⟨k', t', (Function.update_of_ne hkk _ _).trans hk', hst', hcam, (henable _).trans hen⟩

/-! ## The searches -/

theorem findChannel_own (hown : (s.rtmpUser i).channel = t.arg)
    (hfront : ∀ j < i, (s.rtmpUser j).channel ≠ t.arg) : findChannel s.rtmpUser t.arg = some i := by
  rw [findChannel, ← Fin.find?_eq_find?_finRange, Fin.find?_eq_some_iff]
  exact ⟨decide_eq_true hown, fun j hj => decide_eq_false (hfront j hj)⟩

theorem exists_findFree
    (hfree : (s.rtmpUser i).channel = -1 ∧ (s.rtmpUser i).SerialNumber.str.strlen = 0) :
    ∃ j, findFree s.rtmpUser = some j ∧ (s.rtmpUser j).channel = -1 := by
  cases hfind : findFree s.rtmpUser with
  | none => exact absurd (List.find?_eq_none.1 hfind i (List.mem_finRange i)) (by simpa using hfree)
  | some j =>
      have hj := List.find?_some hfind
      exact ⟨j, rfl, (of_decide_eq_true hj).1⟩

theorem findCamera_some {channel : ℤ} {serial : DvrString}
    (h : findCamera s.rtmpUser channel serial = some i) :
    (s.rtmpUser i).channel = channel ∧ (s.rtmpUser i).SerialNumber = serial := by
  unfold findCamera at h
  split at h
  · cases h
  · have hfound := List.find?_some h
    exact of_decide_eq_true hfound

/-! ## Steps -/

theorem BindInv.startThread (h : BindInv s) (hk : s.threads k = some t) (hwork : t.work = .starting)
    (hfront : ∀ j < t.own, (s.rtmpUser j).channel ≠ t.arg) : BindInv (s.startThread k t) := by
  have hst : t.streams := by
    rw [RtmpThread.streams, hwork]
    trivial
  have hown : (s.rtmpUser t.own).channel = t.arg := by
    obtain ⟨harg, -, hchannel, -⟩ := h.elem k t hk hst
    exact hchannel.trans harg.symm
  rw [RtmpState.startThread, findChannel_own hown hfront]
  refine h.step rfl (fun k' t' hk' => ?_) (fun k' t' hk' hst' => ?_) fun c hc => ?_
  · rcases thread_cases hk' with ⟨rfl, rfl⟩ | ⟨-, hk₀⟩
    · refine ⟨t, hk, rfl, rfl, rfl, fun _ => hst, fun j pc mh hw => ?_⟩
      cases hw
      exact ⟨rfl, nofun⟩
    · exact ⟨t', hk₀, rfl, rfl, rfl, id, fun j pc mh => h.bound k' t' j pc mh hk₀⟩
  · exact ⟨rfl, rfl, fun hen => ⟨hen, rfl⟩⟩
  · obtain ⟨k', t', hk', hst', hcam, hen⟩ := h.served c hc
    by_cases hkk : k' = k
    · subst hkk
      obtain rfl := Option.some.inj (hk.symm.trans hk')
      exact ⟨k', _, Function.update_self _ _ _, ⟨nofun, nofun⟩, hcam, hen⟩
    · exact ⟨k', t', (Function.update_of_ne hkk _ _).trans hk', hst', hcam, hen⟩

/-- A camera that is switched off: the others keep theirs. -/
theorem BindInv.delCamera (h : BindInv s) (param : DvrOpt) : BindInv (s.delCamera param) := by
  have hkeep : ∀ {rtmpUser}, (∀ j, (rtmpUser j).channel = (s.rtmpUser j).channel ∧
      (rtmpUser j).SerialNumber = (s.rtmpUser j).SerialNumber ∧ ((rtmpUser j).enable = 0 ∧
        (s.rtmpUser j).channel = param.wChannel ∧
        (s.rtmpUser j).SerialNumber = param.sDvrSerialNumber ∨ rtmpUser j = s.rtmpUser j)) →
      BindInv { s with
        rtmpUser := rtmpUser
        cameras := s.cameras.filter fun c => c.pair ≠ (optCamera param).pair } := by
    intro rtmpUser hsame
    refine h.step rfl (fun k t hk => ⟨t, hk, rfl, rfl, rfl, id, fun j pc mh hw => ?_⟩)
      (fun k t hk hst => ⟨(hsame _).1, (hsame _).2.1, fun hen => ?_⟩) fun c hc => ?_
    · obtain ⟨hj, hreset⟩ := h.bound k t j pc mh hk hw
      refine ⟨hj, fun hpc => ?_⟩
      rcases (hsame t.own).2.2 with ⟨hoff, -⟩ | hid
      · dsimp only
        omega
      · dsimp only
        rw [hid]
        exact hreset hpc
    · dsimp only at hen ⊢
      rcases (hsame t.own).2.2 with ⟨hoff, -⟩ | hid
      · omega
      · rw [hid] at hen ⊢
        exact ⟨hen, rfl⟩
    · obtain ⟨hmem, hpair⟩ := List.mem_filter.1 hc
      obtain ⟨k, t, hk, hst, rfl, hen⟩ := h.served c hmem
      refine ⟨k, t, hk, hst, rfl, ?_⟩
      rcases (hsame t.own).2.2 with ⟨-, hch, hser⟩ | hid
      · obtain ⟨-, -, hchannel, hserial, -⟩ := h.elem k t hk hst
        refine absurd ?_ (of_decide_eq_true hpair)
        rw [Camera.pair, ← hchannel, ← hserial, hch, hser]
        rfl
      · dsimp only
        rw [hid]
        exact hen
  unfold RtmpState.delCamera
  cases hfind : findCamera s.rtmpUser param.wChannel param.sDvrSerialNumber with
  | none => exact hkeep fun j => ⟨rfl, rfl, .inr rfl⟩
  | some i =>
      obtain ⟨hch, hser⟩ := findCamera_some hfind
      refine hkeep fun j => ?_
      by_cases hj : j = i
      · subst hj
        rw [Function.update_self]
        exact ⟨rfl, rfl, .inl ⟨rfl, hch, hser⟩⟩
      · rw [Function.update_of_ne hj]
        exact ⟨rfl, rfl, .inr rfl⟩

/-- A turn of the loops at start-up. -/
theorem BindInv.nextCamera {ok : Bool} (h : BindInv s) (hcond : Proper s (.camera ok)) :
    BindInv (s.nextCamera ok) := by
  unfold RtmpState.nextCamera
  cases hcam : dvrCamera s.dvrParam s.dvrIndex s.ipcIndex with
  | none => exact h.congr rfl rfl rfl rfl
  | some c =>
      obtain ⟨hnvr, rfl, hfree, hfresh⟩ := hcond c hcam
      dsimp only
      rw [if_pos hnvr, if_pos hfree]
      have hpos : BindInv { s with pos := s.pos + 1 } := h.congr rfl rfl rfl rfl
      exact hpos.fill hfree ⟨hfresh.channel, hfresh.pair, hfresh.queue⟩

theorem bindInv_step {e : CameraEvent} (h : BindInv s) (hcond : Proper s e) (hs : CameraStep s e s') :
    BindInv s' := by
  cases hs with
  | camera _ => exact h.nextCamera hcond
  | ready _ _ =>
      have hnone : camerasBehind s.dvrParam s.dvrNum = [] := by
        rw [camerasBehind, Nat.sub_eq_zero_of_le hcond]
        rfl
      exact h.congr rfl rfl rfl (by rw [hnone, List.nil_append])
  | start hk hwork => exact h.startThread hk hwork (hcond _ hk)
  | run hk hwork hstep => exact h.run hk hwork hcond hstep
  | setSerconfig =>
      refine h.step rfl (fun k t hk => ?_) (fun k t hk hst => ?_) h.served
      · exact ⟨t, hk, rfl, rfl, rfl, id, fun j pc mh => h.bound k t j pc mh hk⟩
      · exact ⟨rfl, rfl, fun hen => ⟨hen, rfl⟩⟩
  | @add param ok _ =>
      obtain ⟨rfl, hfresh, i, hfree⟩ := hcond
      obtain ⟨j, hfind, hj⟩ := exists_findFree hfree
      rw [RtmpState.addCamera, hfind]
      exact h.fill hj hfresh
  | @del param _ => exact h.delCamera param
  | others queueHandle => exact h.congr rfl rfl rfl rfl

/-- Turns of the loops that find no camera. -/
theorem run_idle (n : ℕ) (hn : s.pos + n ≤ netNvrMaxNum * netIpcMaxNum)
    (hidle : ∀ m, s.pos ≤ m → m < s.pos + n → dvrCamera s.dvrParam (m / netIpcMaxNum)
      ⟨m % netIpcMaxNum, Nat.mod_lt _ (by decide)⟩ = none) :
    ∃ tr, Run (stepWhen Proper CameraStep) s tr { s with pos := s.pos + n } := by
  induction n with
  | zero => exact ⟨[], .nil⟩
  | succ n ih =>
      obtain ⟨tr, hrun⟩ := ih (by omega) fun m hm hlt => hidle m hm (by omega)
      have hnone := hidle (s.pos + n) (by omega) (by omega)
      have hproper : Proper { s with pos := s.pos + n } (.camera true) := fun c hc =>
        nomatch hnone.symm.trans hc
      refine ⟨_, hrun.snoc (a := .camera true) ⟨hproper, ?_⟩⟩
      have hstep := @CameraStep.camera { s with pos := s.pos + n } true (Nat.lt_of_succ_le hn)
      rwa [RtmpState.nextCamera, RtmpState.dvrIndex, RtmpState.ipcIndex, hnone] at hstep

theorem freshCamera_init {dvrParam : ℕ → HKDVRParam} {dvrNum : ℕ} {queueHandle : QueueTable}
    (h : 0 ≤ c.channel) : FreshCamera (rtmpParamInit dvrParam dvrNum queueHandle) c where
  channel := h
  pair i hi := by
    have hfree : (-1 : ℤ) = c.channel := hi.1
    omega
  queue i hi := by
    change (0 : ℤ) = 1 at hi
    omega

/-- A camera stays new when another one is filled in. -/
theorem FreshCamera.fill {c' : Camera} {ok : Bool} (h : FreshCamera s c) (hpair : c'.pair ≠ c.pair)
    (hqueue : c'.queueid ≠ c.queueid) : FreshCamera (s.fill i c' ok) c where
  channel := h.channel
  pair j hj := by
    by_cases hji : j = i
    · subst hji
      simp only [RtmpState.fill, Function.update_self] at hj
      exact hpair (by rw [Camera.pair, Camera.pair, hj.1, hj.2])
    · simp only [RtmpState.fill, Function.update_of_ne hji] at hj
      exact h.pair j hj
  queue j hj := by
    by_cases hji : j = i
    · subst hji
      simpa only [RtmpState.fill, Function.update_self] using hqueue
    · simp only [RtmpState.fill, Function.update_of_ne hji] at hj ⊢
      exact h.queue j hj

theorem channel_ne_fill {c' : Camera} {ok : Bool} {channel : ℤ}
    (h : ∀ j, (s.rtmpUser j).channel ≠ channel) (hne : c'.channel ≠ channel) (j : Fin rtmpUsrNum) :
    ((s.fill i c' ok).rtmpUser j).channel ≠ channel := by
  by_cases hji : j = i
  · subst hji
    simpa only [RtmpState.fill, Function.update_self] using hne
  · simpa only [RtmpState.fill, Function.update_of_ne hji] using h j

/-- Only the elements matter. -/
theorem FreshCamera.congr (h : FreshCamera s c) (huser : s'.rtmpUser = s.rtmpUser) :
    FreshCamera s' c := by
  obtain ⟨h₁, h₂, h₃⟩ := h
  exact ⟨h₁, huser ▸ h₂, huser ▸ h₃⟩

/-- A camera is filled in and its thread looks for the element. -/
theorem run_start (hother : ∀ j < i, (s.rtmpUser j).channel ≠ c.channel) :
    Run (stepWhen Proper CameraStep) (s.fill i c true) [.start s.next]
      ((s.fill i c true).startThread s.next ⟨c.channel, .starting, i, c⟩) := by
  have hthread : (s.fill i c true).threads s.next = some ⟨c.channel, .starting, i, c⟩ :=
    Function.update_self _ _ _
  refine Run.nil.snoc ⟨fun t ht j hj => ?_, .start hthread rfl⟩
  obtain rfl := Option.some.inj (hthread.symm.trans ht)
  simp only [RtmpState.fill, Function.update_of_ne hj.ne]
  exact hother j hj

/-- Nothing is asked of a camera that is taken out. -/
theorem step_del {param : DvrOpt} (h : s.ready = true) :
    stepWhen Proper CameraStep s (.del param) (s.delCamera param) := ⟨trivial, .del h⟩

theorem delCamera_frame (s : RtmpState) (param : DvrOpt) : (s.delCamera param).ready = s.ready ∧
    (s.delCamera param).next = s.next ∧
    (s.delCamera param).cameras = s.cameras.filter fun c => c.pair ≠ (optCamera param).pair := by
  unfold RtmpState.delCamera
  split <;> exact ⟨rfl, rfl, rfl⟩

def serialA : DvrString := ⟨⟨[65], by decide⟩, by decide⟩

def serialB : DvrString := ⟨⟨[66], by decide⟩, by decide⟩

def cameraA : Camera := ⟨serialA, 1, 1⟩

def cameraB : Camera := ⟨serialB, 1, 2⟩

/-- An NVR with one camera. -/
def dvrOf (j : Fin netIpcMaxNum) (c : Camera) : HKDVRParam where
  HkDvrInfo := { HkDeviceInfo.zero with sDvrSerialNumber := c.serial }
  HkSdkParam := Function.update (fun _ => .zero) j
    { HkDeviceParam.zero with sChannel := c.channel, sQueueID := c.queueid }

/-- Camera A at index 0 of the first NVR, another one at index `j` of the second. -/
def dvrTwo (j : Fin netIpcMaxNum) (c : Camera) (i : ℕ) : HKDVRParam :=
  if i = 0 then dvrOf 0 cameraA else if i = 1 then dvrOf j c else .zero

theorem dvrOf_idle {j j' : Fin netIpcMaxNum} (hj : j' ≠ j) :
    ((dvrOf j c).HkSdkParam j').sQueueID = 0 := by
  have hzero := Function.update_of_ne hj { HkDeviceParam.zero with
    sChannel := c.channel, sQueueID := c.queueid } fun _ => HkDeviceParam.zero
  exact congrArg HkDeviceParam.sQueueID hzero

/-- Every turn but the first and that of the second NVR's camera is idle. -/
theorem dvrCamera_dvrTwo {j : Fin netIpcMaxNum} {m : ℕ} (hA : m ≠ 0)
    (hB : m ≠ netIpcMaxNum + j.val) : dvrCamera (dvrTwo j c) (m / netIpcMaxNum)
      ⟨m % netIpcMaxNum, Nat.mod_lt _ (by decide)⟩ = none := by
  refine if_neg fun hcam => absurd hcam.2 ?_
  unfold dvrTwo
  split
  case isTrue hdvr =>
    rw [dvrOf_idle fun h => hA ?_]
    · omega
    · have hzero : m % netIpcMaxNum = 0 := congrArg Fin.val h
      rw [← Nat.div_add_mod m netIpcMaxNum, hdvr, hzero, Nat.mul_zero]
  case isFalse =>
    split
    case isTrue hdvr =>
      rw [dvrOf_idle fun h => hB ?_]
      · omega
      · have hmod : m % netIpcMaxNum = j.val := congrArg Fin.val h
        rw [← Nat.div_add_mod m netIpcMaxNum, hdvr, hmod, Nat.mul_one]
    case isFalse => exact lt_irrefl (0 : ℤ)

/-- The table at start-up, and after the turn that finds camera A. -/
def twoInit (j : Fin netIpcMaxNum) (c : Camera) : RtmpState :=
  rtmpParamInit (dvrTwo j c) 2 fun _ => unusedQueue

def afterA (j : Fin netIpcMaxNum) (c : Camera) : RtmpState := (twoInit j c).nextCamera true

def cameraC : Camera := ⟨serialB, 2, 2⟩

/-- `DvrOpt_T` of a camera. -/
def optOf (c : Camera) : DvrOpt := ⟨c.channel, c.queueid, c.serial⟩

def cameraD : Camera := ⟨serialB, 3, 3⟩

/-- Both cameras are streamed: the loops have gone through the first NVR, through the second up to its
    camera, and to the end. -/
def streamA : RtmpState := (afterA 1 cameraC).startThread 0 ⟨1, .starting, 0, cameraA⟩

def afterC : RtmpState := RtmpState.nextCamera { streamA with pos := netIpcMaxNum + 1 } true

def streamC : RtmpState :=
  { afterC.startThread 1 ⟨2, .starting, 1, cameraC⟩ with pos := netNvrMaxNum * netIpcMaxNum }

theorem run_streamC : ∃ tr, Run (stepWhen Proper CameraStep) (twoInit 1 cameraC) tr streamC := by
  have hfirst : Proper (twoInit 1 cameraC) (.camera true) := by
    intro c hc
    obtain rfl : cameraA = c := Option.some.inj hc
    exact ⟨by decide, rfl, rfl, freshCamera_init (by decide)⟩
  have hA : Run (stepWhen Proper CameraStep) (twoInit 1 cameraC) [.camera true] (afterA 1 cameraC) :=
    Run.nil.snoc ⟨hfirst, .camera (by decide)⟩
  have hstartA := run_start (s := { twoInit 1 cameraC with pos := 1, cameras := [cameraA] })
    (i := 0) (c := cameraA) fun j hj => absurd hj (Fin.not_lt_zero j)
  obtain ⟨tr₁, h₁⟩ := run_idle (s := streamA) 64 (by decide) fun m hm hlt =>
    dvrCamera_dvrTwo (Nat.one_le_iff_ne_zero.1 hm) (Nat.ne_of_lt hlt)
  have hsecond : Proper { streamA with pos := netIpcMaxNum + 1 } (.camera true) := by
    intro c hc
    obtain rfl : cameraC = c := Option.some.inj hc
    have hfresh : FreshCamera (twoInit 1 cameraC) cameraC := freshCamera_init (by decide)
    refine ⟨by decide, rfl, rfl, ?_⟩
    exact (@FreshCamera.fill _ _ 0 cameraA true hfresh (by decide) (by decide)).congr rfl
  have hC : Run (stepWhen Proper CameraStep) { streamA with pos := netIpcMaxNum + 1 }
      [.camera true] afterC := Run.nil.snoc ⟨hsecond, .camera (by decide)⟩
  have hstartC := run_start
    (s := { streamA with pos := netIpcMaxNum + 2, cameras := [cameraC, cameraA] }) (i := 1)
    (c := cameraC) fun j hj => by
      obtain rfl : j = 0 := Fin.ext (Nat.lt_one_iff.1 hj)
      decide
  obtain ⟨tr₂, h₂⟩ := run_idle (s := afterC.startThread 1 ⟨2, .starting, 1, cameraC⟩)
    ((netNvrMaxNum - 1) * netIpcMaxNum - 2) (by decide) fun m hm _ =>
      dvrCamera_dvrTwo (Nat.ne_of_gt (lt_of_lt_of_le (by decide) hm)) (Nat.ne_of_gt hm)
  exact ⟨_, ((((hA.append hstartA).append h₁).append hC).append hstartC).append h₂⟩

def afterB : RtmpState := RtmpState.nextCamera { afterA 0 cameraB with pos := netIpcMaxNum } true

end SmartPlat.Rtmp
