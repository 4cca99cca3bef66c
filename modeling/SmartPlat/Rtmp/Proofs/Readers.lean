import SmartPlat.Lib.Transition
import SmartPlat.MediaQueue.Proofs.RawWriters
import SmartPlat.MediaQueue.Proofs.Slots
import SmartPlat.Rtmp.RtmpProc

set_option autoImplicit false

/-! # RTMP: what a streaming thread does as a reader

The registration sits inside the outer loop and `MediaQueueUnRegistReadHandle` behind it, so a thread
that connects again registers again and forgets the slot it had. A thread that comes to the
registration once holds one slot and gives it back; what the other threads do to the element or to the
queues makes no difference. -/

namespace SmartPlat.Rtmp

open SmartPlat.Lib SmartPlat.MediaQueue SmartPlat.HkSdkManage

variable {s s' : ProcState} {held held' : List (ℤ × ℤ)} {e : RtmpEvent} {r : ℤ}

/-- What is asked of a step: the thread holds one slot at most; it holds none when it registers; and
    when a registration fails, the queue is not in use or all its slots are taken, by others. -/
structure OneReader (x : ProcState × List (ℤ × ℤ)) (e : RtmpEvent)
    (y : ProcState × List (ℤ × ℤ)) : Prop where
  atMostOne : y.2.length ≤ 1
  released : ∀ r, e = .proc (.regist r) → x.2 = []
  refused : ∀ r (q : Fin queueChnMax), e = .proc (.regist r) → r < 0 →
    x.1.mediaHandle.queueID = q.val → (x.1.queueHandle q).enabled = true →
    ∀ i : Fin queueUseMax, ((x.1.queueHandle q).pRead i).isSome = true ∧
      ((q.val : ℤ), (i.val : ℤ)) ∉ x.2

/-- The thread registers with a handle that is not registered. -/
def RegistersOnce (x : ProcState × List (ℤ × ℤ)) (e : RtmpEvent) : Prop :=
  ∀ r, e = .proc (.regist r) → x.1.mediaHandle.pReadData = false

/-- What the thread holds is what its handle says, until the handle is about to be used again. -/
def HeldInv (x : ProcState × List (ℤ × ℤ)) : Prop :=
  x.1.mediaHandle.pReadData = false ∧ x.2 = [] ∨
    x.1.mediaHandle.pReadData = true ∧ (∃ slot, x.2 = [slot] ∧
      (x.1.pc ≠ .regist → slot = (x.1.mediaHandle.queueID, x.1.mediaHandle.registerID))) ∨
    x.1.pc = .ended ∧ x.2 = []

theorem heldInv_procStart (user : RtmpUserInfo) (queueHandle : QueueTable) :
    HeldInv (procStart user queueHandle, []) := .inl ⟨rfl, rfl⟩

theorem HeldInv.length_le {x : ProcState × List (ℤ × ℤ)} (h : HeldInv x) : x.2.length ≤ 1 := by
  rcases h with ⟨-, hnil⟩ | ⟨-, slot, hone, -⟩ | ⟨-, hnil⟩
  · simp [hnil]
  · simp [hone]
  · simp [hnil]

/-- A step that leaves the handle alone, and does not start from the registration or the end. -/
theorem HeldInv.kept (h : HeldInv (s, held)) (hhandle : s'.mediaHandle = s.mediaHandle)
    (hpc : s'.pc = s.pc ∨ s.pc ≠ .regist ∧ s.pc ≠ .ended) : HeldInv (s', held) := by
  rcases h with ⟨hread, hnil⟩ | ⟨hread, slot, hone, hslot⟩ | ⟨hended, hnil⟩
  · exact .inl ⟨hhandle ▸ hread, hnil⟩
  · refine .inr (.inl ⟨hhandle ▸ hread, slot, hone, fun hne => ?_⟩)
    dsimp only at hslot hne ⊢
    rw [hhandle]
    refine hslot ?_
    rcases hpc with heq | ⟨hne', -⟩
    · rwa [← heq]
    · exact hne'
  · rcases hpc with heq | ⟨-, hne⟩
    · exact .inr (.inr ⟨heq.trans hended, hnil⟩)
    · exact absurd hended hne

theorem HeldInv.notEnded (h : HeldInv (s, held)) (hpc : s.pc ≠ .ended) :
    s.mediaHandle.pReadData = false ∧ held = [] ∨
      s.mediaHandle.pReadData = true ∧ ∃ slot, held = [slot] ∧
        (s.pc ≠ .regist → slot = (s.mediaHandle.queueID, s.mediaHandle.registerID)) := by
  rcases h with h | h | ⟨hended, -⟩
  · exact .inl h
  · exact .inr h
  · exact absurd hended hpc

theorem registReadHandle_registered {queueHandle t : QueueTable} {handle h' : MediaQueueRegistHandle}
    (hreg : registReadHandle queueHandle handle = .ok (r, t, h')) (hr : 0 ≤ r) :
    h' = { handle with registerID := r, pReadData := true } := by
  have hid : handle.queueID ≠ queueChnMax := by
    intro hid
    have hpass : ¬ queueIDRefused queueChnMax := by decide
    have hnone : queueIndex queueChnMax = none := queueIndex_eq_none_iff.2 (by omega)
    rw [registReadHandle, hid, if_neg hpass, hnone] at hreg
    cases hreg
  rcases registReadHandle_cases queueHandle handle hid with
    ⟨-, hcase⟩ | ⟨-, hcase⟩ | ⟨q, i, -, -, -, hcase⟩
  · cases hcase.symm.trans hreg
    exact absurd hr (by decide)
  · cases hcase.symm.trans hreg
    exact absurd hr (by decide)
  · cases hcase.symm.trans hreg
    rfl

/-- A registration that fails finds no queue in use, or no slot. -/
theorem registReadHandle_refused {queueHandle t : QueueTable} {handle h' : MediaQueueRegistHandle}
    {q : Fin queueChnMax} (hreg : registReadHandle queueHandle handle = .ok (r, t, h')) (hr : r < 0)
    (hq : handle.queueID = q.val) (henabled : (queueHandle q).enabled = true) (i : Fin queueUseMax) :
    ((queueHandle q).pRead i).isSome = true := by
  have hid : handle.queueID ≠ queueChnMax := by
    have hlt := q.isLt
    omega
  rcases registReadHandle_cases queueHandle handle hid with
    ⟨hunused, -⟩ | ⟨⟨q', hq', hfull⟩, -⟩ | ⟨q', i', -, -, -, hcase⟩
  · rw [hunused q hq] at henabled
    cases henabled
  · obtain rfl : q' = q := Fin.ext (by omega)
    exact hfull i
  · cases hcase.symm.trans hreg
    exact absurd hr (by omega)

/-- The invariant goes through every step of a thread that registers once. -/
theorem heldInv_step (h : HeldInv (s, held)) (hcond : RegistersOnce (s, held) e)
    (hs : stepWith heldTick RtmpStep (s, held) e (s', held')) : HeldInv (s', held') := by
  obtain ⟨hstep, rfl⟩ := hs
  dsimp only at hstep ⊢
  cases hstep with
  | setSerconfig => exact h.kept rfl (.inl rfl)
  | delCamera => exact h.kept rfl (.inl rfl)
  | others queueHandle => exact h.kept rfl (.inl rfl)
  | proc hstep =>
      cases hstep with
      | enter hpc _ => exact h.kept rfl (.inr (by simp [hpc]))
      | exit hpc _ => exact h.kept rfl (.inr (by simp [hpc]))
      | connect hpc => exact h.kept rfl (.inr (by simp [hpc]))
      | sendMeta hpc => exact h.kept rfl (.inr (by simp [hpc]))
      | connected hpc => exact h.kept rfl (.inr (by simp [hpc]))
      | leave hpc _ => exact h.kept rfl (.inr (by simp [hpc]))
      | noReader hpc _ _ _ => exact h
      | pull hpc _ _ _ _ _ _ => exact h.kept rfl (.inr (by simp [hpc]))
      | reset hpc => exact h.kept rfl (.inr (by simp [hpc]))
      | load hpc =>
          rcases h.notEnded (by simp [hpc]) with ⟨hread, rfl⟩ | ⟨hread, slot, rfl, -⟩
          · exact .inl ⟨hread, rfl⟩
          · exact .inr (.inl ⟨hread, slot, rfl, fun hne => absurd rfl hne⟩)
      | @regist r _ _ hpc hreg hr =>
          obtain rfl := registReadHandle_registered hreg hr
          rcases h.notEnded (by simp [hpc]) with ⟨-, rfl⟩ | ⟨hread, -⟩
          · refine .inr (.inl ⟨rfl, (s.mediaHandle.queueID, r), ?_, fun _ => rfl⟩)
            exact if_pos hr
          · cases hread.symm.trans (hcond r rfl)
      | @refused r _ _ hpc hreg hr =>
          rcases h.notEnded (by simp [hpc]) with ⟨-, rfl⟩ | ⟨hread, -⟩
          · exact .inr (.inr ⟨rfl, if_neg (by omega)⟩)
          · cases hread.symm.trans (hcond r rfl)
      | unRegist hpc hunreg =>
          refine .inr (.inr ⟨rfl, ?_⟩)
          rcases h.notEnded (by simp [hpc]) with ⟨-, rfl⟩ | ⟨-, slot, rfl, hslot⟩
          · rfl
          · rw [hslot (by simp [hpc])]
            simp [heldTick]

/-- A thread that comes to the registration once does what is asked of it. -/
theorem oneReader_of_registersOnce (h : HeldInv (s, held)) (hcond : RegistersOnce (s, held) e)
    (hs : stepWith heldTick RtmpStep (s, held) e (s', held')) :
    OneReader (s, held) e (s', held') := by
  have hnone : ∀ r, e = .proc (.regist r) → held = [] := by
    rintro r rfl
    have hread := hcond r rfl
    rcases h with ⟨-, hnil⟩ | ⟨hread', -⟩ | ⟨-, hnil⟩
    · exact hnil
    · cases hread'.symm.trans hread
    · exact hnil
  refine ⟨(heldInv_step h hcond hs).length_le, hnone, fun r q he hr hq henabled i => ⟨?_, ?_⟩⟩
  · subst he
    obtain ⟨hstep, -⟩ := hs
    cases hstep with
    | proc hstep =>
        cases hstep with
        | regist _ hreg hr' => omega
        | refused _ hreg _ => exact registReadHandle_refused hreg hr hq henabled i
  · simp [hnone r he]

/-- A thread that registers again still holds the slot it had. -/
theorem not_oneReader (h : HeldInv (s, held)) (hcond : ¬ RegistersOnce (s, held) e)
    (hs : stepWith heldTick RtmpStep (s, held) e (s', held')) :
    ¬ OneReader (s, held) e (s', held') := by
  intro hone
  refine hcond fun r he => ?_
  have hnil := hone.released r he
  subst he
  have hpc : s.pc = .regist := by
    obtain ⟨hstep, -⟩ := hs
    cases hstep with
    | proc hstep => cases hstep <;> assumption
  rcases h.notEnded (by simp [hpc]) with ⟨hread, -⟩ | ⟨-, slot, hslot, -⟩
  · exact hread
  · cases hslot.symm.trans hnil

/-- **When a streaming thread has one reader.** For every element, all queues and every interleaving with
    the other threads: the runs in which the thread holds one slot at most, holds none when it
    registers, and is refused only for want of a queue or of slots that others hold, are the runs in
    which it registers once. -/
theorem one_reader_iff (user : RtmpUserInfo) (queueHandle : QueueTable) {tr : List RtmpEvent}
    {x : ProcState × List (ℤ × ℤ)} :
    Run (stepThat OneReader (stepWith heldTick RtmpStep)) (procStart user queueHandle, []) tr x ↔
      Run (stepWhen RegistersOnce (stepWith heldTick RtmpStep)) (procStart user queueHandle, [])
        tr x := by
  refine Run.each_iff HeldInv (heldInv_procStart user queueHandle)
    (fun s e s' hI hcond hs => ⟨?_, ?_⟩) fun s e s' hI hcond hs => ?_
  · exact heldInv_step hI hcond hs
  · exact oneReader_of_registersOnce hI hcond hs
  · exact not_oneReader hI hcond hs

/-- Camera 1 with media queue 1. -/
def cameraOne : RtmpUserInfo := ⟨.disconnect, 1, 1, 1, emptyArray _⟩

def queueOne : QueueTable := Function.update (fun _ => unusedQueue) 1 (createQueue 1024)

/-- The thread connects, the configuration changes, and the thread connects again: it has two slots. -/
theorem reconnect_holds_two : ∃ tr x y,
    Run (stepWith heldTick RtmpStep) (procStart cameraOne queueOne, []) tr x ∧
      stepWith heldTick RtmpStep x (.proc (.regist 1)) y ∧ y.2.length = 2 := by
  have hfirst : Run (stepWith heldTick RtmpStep) (procStart cameraOne queueOne, [])
      [.proc .test, .proc (.connect true), .proc (.sendMeta true), .proc .load, .proc (.regist 0),
        .proc .connected, .setSerconfig, .proc .leave] (_, _) :=
    (((((((Run.nil.snoc (stepWith_intro _ (.proc (.enter rfl rfl)))).snoc
      (stepWith_intro _ (.proc (.connect rfl)))).snoc
      (stepWith_intro _ (.proc (.sendMeta rfl)))).snoc
      (stepWith_intro _ (.proc (.load rfl)))).snoc
      (stepWith_intro _ (.proc (.regist rfl rfl (by decide))))).snoc
      (stepWith_intro _ (.proc (.connected rfl)))).snoc
      (stepWith_intro _ .setSerconfig)).snoc
      (stepWith_intro _ (.proc (.leave rfl (by decide))))
  have hagain : Run (stepWith heldTick RtmpStep) (procStart cameraOne queueOne, [])
      [.proc .test, .proc (.connect true), .proc (.sendMeta true), .proc .load, .proc (.regist 0),
        .proc .connected, .setSerconfig, .proc .leave, .proc .test, .proc (.connect true),
        .proc (.sendMeta true), .proc .load] (_, _) :=
    (((hfirst.snoc (stepWith_intro _ (.proc (.enter rfl rfl)))).snoc
      (stepWith_intro _ (.proc (.connect rfl)))).snoc
      (stepWith_intro _ (.proc (.sendMeta rfl)))).snoc
      (stepWith_intro _ (.proc (.load rfl)))
  exact ⟨_, _, _, hagain, stepWith_intro _ (.proc (.regist rfl rfl (by decide))), rfl⟩

/-! ## Getting past the next frame

`WriteVideoRawData` takes frames of up to 400 KB, `RtmpProc` reads with a buffer of 350 KB. `ReadData` leaves
a reader where it is when the buffer does not take the frame, so that the thread asks for the same frame
again, for as long as no writer moves the reader. -/

variable {q : QueueHandle} {i : Fin queueUseMax} {r w : ℕ} {f : RawFrame} {fs : List RawFrame}

/-- The queue once reader `i` has moved from `r` over `len` bytes. -/
def afterRead (q : QueueHandle) (i : Fin queueUseMax) (r len : ℕ) : QueueHandle :=
  { q with pRead := Function.update q.pRead i (some (ringAdvance q.dataBuffSize r len)) }

/-- Whatever the buffer, `ReadData` gives reader `i` the frame `f` that it stands before or reports an error
    and leaves everything as it is; with the buffer of `RtmpProc` it gives the frame. -/
structure Progresses (q : QueueHandle) (i : Fin queueUseMax) (r : ℕ) (f : RawFrame) : Prop where
  reads : ∀ bufflen, readData i q bufflen = .ok (some f.data, afterRead q i r f.data.length) ∨
    readData i q bufflen = .ok (none, q)
  rtmp : readData i q dataMax = .ok (some f.data, afterRead q i r f.data.length)

/-- A frame `RtmpProc` can take. -/
def Takeable (f : RawFrame) : Prop := f.known = true ∧ (f.data.length : ℤ) ≤ dataMax

/-- What `ReadData` does with the next frame. -/
theorem readData_next (hq : Framed q w) (hr : q.pRead i = some r)
    (hun : RawUnread q.dataBuff q.dataBuffSize w r (f :: fs)) (bufflen : ℤ) :
    readData i q bufflen =
      if f.known then
        if (f.data.length : ℤ) ≤ bufflen then .ok (some f.data, afterRead q i r f.data.length)
        else .ok (none, q)
      else if 0 ≤ bufflen then .ok (some [], q)
      else .ok (none, q) :=
  hun.readData_cons hq.enabled hq.pWrite hr f.whole bufflen

/-- A frame that the thread cannot take is not given, and stays the next one. -/
theorem readData_stuck (hq : Framed q w) (hr : q.pRead i = some r)
    (hun : RawUnread q.dataBuff q.dataBuffSize w r (f :: fs)) (hf : ¬ Takeable f) :
    ∃ data, readData i q dataMax = .ok (data, q) ∧ data ≠ some f.data := by
  have hread := readData_next hq hr hun dataMax
  by_cases hk : f.known = true
  · have hlong : ¬ (f.data.length : ℤ) ≤ dataMax := fun hle => hf ⟨hk, hle⟩
    rw [if_pos hk, if_neg hlong] at hread
    exact ⟨none, hread, nofun⟩
  · rw [if_neg hk, if_pos (by decide)] at hread
    refine ⟨some [], hread, fun hnil => ?_⟩
    have hpos : 0 < f.data.length := f.size_pos
    rw [← Option.some.inj hnil] at hpos
    exact absurd hpos (Nat.lt_irrefl 0)

theorem progresses_iff (hq : Framed q w) (hr : q.pRead i = some r)
    (hun : RawUnread q.dataBuff q.dataBuffSize w r (f :: fs)) : Progresses q i r f ↔ Takeable f := by
  constructor
  · intro h
    by_contra hf
    obtain ⟨data, hread, hne⟩ := readData_stuck hq hr hun hf
    rw [h.rtmp] at hread
    exact hne (Prod.mk.inj (Except.ok.inj hread)).1.symm
  · rintro ⟨hk, hlen⟩
    refine ⟨fun bufflen => ?_, ?_⟩
    · rw [readData_next hq hr hun, if_pos hk]
      split
      · exact Or.inl rfl
      · exact Or.inr rfl
    · rw [readData_next hq hr hun, if_pos hk, if_pos hlen]

/-- **When a reader gets on.** In every state a queue reaches, each reader has whole frames before it; it gets
    past the next one exactly if that is an H264, H265 or G711A frame of at most 350 KB. -/
theorem readerProgress_iff {tr : List QueueUse} (h : Run UseStep unusedQueue tr q)
    (hw : q.pWrite = some w) (hr : q.pRead i = some r) :
    ∃ fs, RawUnread q.dataBuff q.dataBuffSize w r fs ∧
      ∀ f ∈ fs.head?, Progresses q i r f ↔ Takeable f := by
  obtain ⟨w', hq⟩ := (framed_of_run h).resolve_right (by rw [hw]; nofun)
  obtain rfl := Option.some.inj (hw.symm.trans hq.pWrite)
  obtain ⟨fs, hun⟩ := hq.readers i r hr
  refine ⟨fs, hun, fun f hf => ?_⟩
  cases fs with
  | nil => nomatch hf
  | cons g gs =>
    obtain rfl := Option.mem_some_iff.1 hf
    exact progresses_iff hq hr hun

/-! ## The thread before a frame it cannot take -/

/-- As long as only the thread works on the queue, it asks for the same frame again and again. -/
theorem pulls_stuck {s s' : ProcState} {qi : Fin queueChnMax} {tr : List ProcEvent}
    {data : Option (List UInt8)} (hqueue : s.mediaHandle.queueID = qi.val)
    (hregister : s.mediaHandle.registerID = i.val)
    (hstuck : readData i (s.queueHandle qi) dataMax = .ok (data, s.queueHandle qi))
    (h : Run (stepWhen (fun _ e => ∃ ret, e = .pull ret) ProcStep) s tr s') :
    s'.queueHandle = s.queueHandle := by
  have hinv := h.stateInvariant
    (fun t => t.queueHandle = s.queueHandle ∧ t.mediaHandle = s.mediaHandle) ⟨rfl, rfl⟩ ?_
  · exact hinv.1
  · rintro t e t' ⟨hqs, hhandle⟩ ⟨⟨ret, rfl⟩, hs⟩
    cases hs with
    | @pull qi' i' _ _ _ _ _ _ _ hq hi hread =>
      rw [hhandle, hqueue] at hq
      rw [hhandle, hregister] at hi
      obtain rfl : qi = qi' := Fin.ext (by exact_mod_cast hq)
      obtain rfl : i = i' := Fin.ext (by exact_mod_cast hi)
      rw [hqs, hstuck] at hread
      obtain ⟨-, rfl⟩ := Prod.mk.inj (Except.ok.inj hread)
      refine ⟨?_, hhandle⟩
      rw [hqs, Function.update_eq_self]

/-- A write at the start of the buffer runs over no reader that stands there. -/
theorem write_at_start (hq : Framed q 0) (hr : ∀ i r, q.pRead i = some r → r = 0) {data : List UInt8}
    (hfit : data.length ≤ q.dataBuffSize) : writeData q data = .ok (keyTrue, { q with
      dataBuff := ringWrite q.dataBuff 0 data
      pWrite := some (data.length % q.dataBuffSize) }) := by
  have hbalance : balanceAll q 0 data.length = .ok q.pRead := by
    rw [balanceAll, if_pos (by omega)]
    refine balanceReaders_ok (List.nodup_finRange _) (fun i _ => ?_) fun _ _ => rfl
    cases hi : q.pRead i with
    | none => rfl
    | some r =>
      obtain rfl := hr i r hi
      rfl
  rw [writeData_balances hq.enabled hq.pWrite hq.len hq.w_le, hbalance, Nat.zero_add]
  rfl

/-- A queue of `size` bytes with its first reader registered. -/
def withReader (size : ℕ) : QueueHandle := (mediaQueueRegistReadHandle (createQueue size)).2

theorem withReader_run (size : ℕ) :
    Run UseStep unusedQueue [.create size, .call .regist] (withReader size) :=
  have hregist : mediaQueueRegistReadHandle (createQueue size) = (0, withReader size) := rfl
  (Run.nil : Run UseStep unusedQueue [] _) |>.snoc (.create rfl) |>.snoc (.call (.regist hregist))

theorem withReader_framed (size : ℕ) : Framed (withReader size) 0 :=
  (framed_createQueue size).regist rfl

theorem withReader_pRead {size r : ℕ} (hr : (withReader size).pRead i = some r) : r = 0 := by
  change Function.update (fun _ => none) 0 (some 0) i = some r at hr
  rw [Function.update_apply] at hr
  split at hr
  · exact (Option.some.inj hr).symm
  · cases hr

/-- Such a queue with one frame in it. -/
def withFrame (size : ℕ) (f : RawFrame) : QueueHandle :=
  { withReader size with
    dataBuff := ringWrite (withReader size).dataBuff 0 f.data
    pWrite := some f.data.length }

theorem withFrame_unread {size : ℕ} (hfit : f.data.length < size) :
    RawUnread (withFrame size f).dataBuff size f.data.length 0 [f] := by
  have hmod : f.data.length % size = f.data.length := Nat.mod_eq_of_lt hfit
  have hnil : RawUnread (withReader size).dataBuff size 0 0 [] :=
    Blocks.nil (withReader_framed size).len (Nat.zero_le _)
  have hsize : itemSize RawFrame.data f = f.data.length := rfl
  have hun := hnil.write (x := f) (by omega) (by rw [totalSize_nil, hsize]; omega)
  rw [totalSize_nil, hsize, Nat.zero_add, if_neg (by omega), hmod, List.nil_append] at hun
  exact hun

theorem withFrame_run {size : ℕ} {data : List UInt8} {param : QueueVideoInputInfo}
    (hdata : f.data = rawFrame .h264 param.bytes data) (hfit : f.data.length < size)
    (hmax : f.data.length ≤ videoRawMax) :
    Run UseStep unusedQueue [.create size, .call .regist, .call (.video .h264)]
      (withFrame size f) := by
  have hlen : f.data.length = 32 + data.length := by
    rw [hdata, length_rawFrame _ _ (length_videoInfo param)]
  have hwrite := write_at_start (withReader_framed size) (fun i r hr => withReader_pRead hr) hfit.le
  rw [show (withReader size).dataBuffSize = size from rfl, Nat.mod_eq_of_lt hfit] at hwrite
  have hraw : writeVideoRawData (withReader size) data param .h264
      = .ok (keyTrue, withFrame size f) := by
    rw [writeVideoRawData, if_neg (by rw [sizeofMeidaVideo]; omega), ← hdata, hwrite]
    rfl
  refine (withReader_run size).snoc (.call (.video ?_ hraw))
  rw [sizeofMeidaVideo, ← hlen]
  exact hfit.le

/-- A frame of three bytes, and the reader registered before it was written. -/
theorem readerProgress_iff_short :
    ∃ q tr, Run UseStep unusedQueue tr q ∧ q.pWrite = some 35 ∧ q.pRead 0 = some 0 ∧
      ∃ fs, RawUnread q.dataBuff q.dataBuffSize 35 0 fs ∧
        ∀ f ∈ fs.head?, Progresses q 0 0 f ↔ Takeable f := by
  let param : QueueVideoInputInfo := ⟨0, 0, FrameType.i.code, 1, 1280, 720, 1024, 0, 0⟩
  let f := RawFrame.ofRaw .h264 param.bytes [1, 2, 3] (length_videoInfo param) (by decide)
  have hrun : Run UseStep unusedQueue _ (withFrame 1024 f) :=
    withFrame_run rfl (by decide) (by decide)
  exact ⟨_, _, hrun, rfl, rfl, readerProgress_iff hrun rfl rfl⟩

/-- An H264 frame of 351 KB in a queue of 6 MB: the writer takes it and reports success, and the thread,
    whose reader stands before it, never gets past it. -/
theorem frame_wedges_reader :
    ∃ q tr f, Run UseStep unusedQueue tr q ∧ q.dataBuffSize = 6 * 1024 * 1024 ∧
      f.data.length = 351 * 1024 + 32 ∧ f.known = true ∧ q.pRead 0 = some 0 ∧
      RawUnread q.dataBuff q.dataBuffSize (351 * 1024 + 32) 0 [f] ∧ ¬ Progresses q 0 0 f ∧
      ∀ s s' : ProcState, ∀ pulls, s.queueHandle 1 = q → s.mediaHandle = ⟨true, 0, 1⟩ →
        Run (stepWhen (fun _ e => ∃ ret, e = .pull ret) ProcStep) s pulls s' →
        s'.queueHandle 1 = q := by
  have hlen : (List.replicate (351 * 1024) (0 : UInt8)).length = 351 * 1024 := List.length_replicate
  let param : QueueVideoInputInfo := ⟨0, 0, FrameType.i.code, 1, 1280, 720, 1024, 0, 0⟩
  let f := RawFrame.ofRaw .h264 param.bytes (List.replicate (351 * 1024) 0) (length_videoInfo param)
    (by omega)
  have hf : f.data.length = 351 * 1024 + 32 :=
    (length_rawFrame _ _ (length_videoInfo param)).trans (by omega)
  have hfit : f.data.length < 6 * 1024 * 1024 := by omega
  have hrun := withFrame_run (f := f) rfl hfit (by rw [hf]; decide)
  have hun := withFrame_unread hfit
  obtain ⟨w, hq⟩ := (framed_of_run hrun).resolve_right nofun
  obtain rfl := Option.some.inj (hq.pWrite : some f.data.length = some w)
  have hlong : ¬ Takeable f := fun htake => absurd htake.2 (by rw [hf]; decide)
  have hread : (withFrame (6 * 1024 * 1024) f).pRead 0 = some 0 := rfl
  obtain ⟨data, hstuck, hne⟩ := readData_stuck hq hread hun hlong
  refine ⟨_, _, f, hrun, rfl, hf, ?_, hread, hf ▸ hun, ?_, ?_⟩
  · rw [RawFrame.known, show MeidaHead.ofBytes f.data = _ from head_rawFrame _ _ _]
    rfl
  · exact fun hp => hlong ((progresses_iff hq hread hun).1 hp)
  · intro s s' pulls hs hhandle h
    rw [← hs] at hstuck
    have hqueue : s.mediaHandle.queueID = (1 : Fin queueChnMax).val := by rw [hhandle]; rfl
    have hregister : s.mediaHandle.registerID = (0 : Fin queueUseMax).val := by rw [hhandle]; rfl
    have hkept := pulls_stuck hqueue hregister hstuck h
    rw [hkept, hs]

end SmartPlat.Rtmp
