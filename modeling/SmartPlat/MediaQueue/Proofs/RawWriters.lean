import SmartPlat.MediaQueue.Proofs.MediaTypes

set_option autoImplicit false

/-! # Media queue: what the raw writers store, and what they report

`WriteVideoRawData` and `WriteAudioRawData` put a frame together in a staging buffer, hand it to
`WriteData`, and report success whatever that returned. Three lengths meet there: the frame's, the
staging buffer's and the ring's. A queue is followed from `MediaQueueInit` on, through its creation, its
use and its destruction. -/

namespace SmartPlat.MediaQueue

open SmartPlat.Lib

/-! ## Calls -/

/-- A call of one of the two raw writers. -/
inductive RawCall where
  | video (data : List UInt8) (param : QueueVideoInputInfo) (mediaType : MediaType)
  | audio (data : List UInt8) (param : QueueAudioInputInfo) (mediaType : MediaType)

def RawCall.data : RawCall → List UInt8
  | .video data _ _ => data
  | .audio data _ _ => data

/-- Header and payload. -/
def RawCall.frame : RawCall → List UInt8
  | .video data param mediaType => rawFrame mediaType param.bytes data
  | .audio data param mediaType => rawFrame mediaType param.bytes data

def RawCall.stagingMax : RawCall → ℕ
  | .video .. => videoRawMax
  | .audio .. => audioRawMax

def RawCall.write (handle : QueueHandle) : RawCall → Except Fault (ℤ × QueueHandle)
  | .video data param mediaType => writeVideoRawData handle data param mediaType
  | .audio data param mediaType => writeAudioRawData handle data param mediaType

/-- The stores into the staging buffer, as offset and length: the `memset`, the three parts of the
    header, the payload. -/
def RawCall.stagingStores (c : RawCall) : List (ℕ × ℕ) :=
  [(0, c.stagingMax), (0, sizeofMeidaHead), (4, 24), (28, 4), (sizeofMeidaVideo, c.data.length)]

/-- The stores of `WriteData` into the ring. -/
def ringStores (handle : QueueHandle) (len : ℕ) : List (ℕ × ℕ) :=
  match handle.pWrite with
  | none => []
  | some pWrite =>
      if handle.enabled = false then []
      else
        let writeLen := handle.dataBuffSize - pWrite
        if writeLen ≥ len then [(pWrite, len)]
        else [(pWrite, writeLen), (0, len - writeLen)]

def Inside (size : ℕ) (stores : List (ℕ × ℕ)) : Prop := ∀ s ∈ stores, s.1 + s.2 ≤ size

instance (size : ℕ) (stores : List (ℕ × ℕ)) : Decidable (Inside size stores) :=
  inferInstanceAs (Decidable (∀ s ∈ stores, _))

/-- The whole frame stands in the ring, from where the writer was on, in cells of its own, and the writer
    has moved behind it. -/
def Placed (q q' : QueueHandle) (frame : List UInt8) : Prop :=
  ∃ w, q.pWrite = some w ∧ frame.length ≤ q.dataBuffSize ∧
    ringSlice q'.dataBuff w frame.length = frame ∧
    q'.pWrite = some ((w + frame.length) % q.dataBuffSize)

/-- The call stores within its buffers and reports what it did. -/
structure Honest (q : QueueHandle) (c : RawCall) : Prop where
  staging : Inside c.stagingMax c.stagingStores
  ring : Inside q.dataBuffSize (ringStores q c.frame.length)
  reports : ∃ rc q', c.write q = .ok (rc, q') ∧ (rc = keyTrue ↔ Placed q q' c.frame) ∧
    (rc ≠ keyTrue → q' = q)

theorem RawCall.length_frame (c : RawCall) : c.frame.length = 32 + c.data.length := by
  cases c with
  | video data param mediaType => exact length_rawFrame _ _ (length_videoInfo param)
  | audio data param mediaType => exact length_rawFrame _ _ (length_audioInfo param)

theorem RawCall.staging_iff (c : RawCall) :
    Inside c.stagingMax c.stagingStores ↔ c.frame.length ≤ c.stagingMax := by
  have hlen := c.length_frame
  simp only [Inside, RawCall.stagingStores, sizeofMeidaHead, sizeofMeidaVideo, List.forall_mem_cons,
    List.not_mem_nil, false_imp_iff, implies_true, and_true]
  omega

/-- A call that does not leave the staging buffer is one of `WriteData`, with success in any case. -/
theorem RawCall.write_eq {c : RawCall} (q : QueueHandle) (h : c.frame.length ≤ c.stagingMax) :
    c.write q = (writeData q c.frame).map fun r => (keyTrue, r.2) := by
  have hlen := c.length_frame
  cases c with
  | video data param mediaType =>
    simp only [RawCall.data, RawCall.stagingMax] at hlen h
    rw [RawCall.write, writeVideoRawData, if_neg (by rw [sizeofMeidaVideo]; omega)]
    rfl
  | audio data param mediaType =>
    simp only [RawCall.data, RawCall.stagingMax] at hlen h
    rw [RawCall.write, writeAudioRawData, if_neg (by rw [sizeofMeidaAudio]; omega)]
    rfl

/-- The frame as the readers see it. -/
theorem RawCall.exists_rawFrame {c : RawCall} (h : c.frame.length ≤ c.stagingMax) :
    ∃ f : RawFrame, f.data = c.frame := by
  have hlen := c.length_frame
  have hmax : c.stagingMax ≤ videoRawMax := by
    cases c with
    | video => exact le_rfl
    | audio => exact show audioRawMax ≤ videoRawMax by decide
  have hfits : 32 + c.data.length < 2 ^ 31 := by
    rw [videoRawMax] at hmax
    omega
  cases c with
  | video data param mediaType =>
    exact ⟨RawFrame.ofRaw mediaType _ data (length_videoInfo param) hfits, rfl⟩
  | audio data param mediaType =>
    exact ⟨RawFrame.ofRaw mediaType _ data (length_audioInfo param) hfits, rfl⟩

/-! ## When the readers can be moved -/

/-- A reader with these frames before it comes, past frames of known length only, to a key frame from which
    on there is room beside `len` new bytes. -/
def RawEscapes (size len : ℕ) (fs : List RawFrame) : Prop :=
  ∃ pre x post, pre ≠ [] ∧ fs = pre ++ x :: post ∧ (∀ f ∈ pre, f.known = true) ∧ x.isKey = true ∧
    totalSize (itemSize RawFrame.data) (x :: post) + len < size

/-- The guards of `WriteData`: the write runs over a reader at `r`. -/
def ranOver (size w len r : ℕ) : Prop :=
  if w + len ≤ size then r > w ∧ r < w + len else r > w ∨ r ≤ len - (size - w)

/-- Every reader the write runs over can escape. -/
def AllRawEscape (q : QueueHandle) (w len : ℕ) : Prop :=
  ∀ i r fs, q.pRead i = some r → RawUnread q.dataBuff q.dataBuffSize w r fs →
    ranOver q.dataBuffSize w len r → RawEscapes q.dataBuffSize len fs

section OneReader

variable {buff : List UInt8} {size w r len : ℕ} {fs s : List RawFrame}

/-- The walk to the next key frame passes everything in front of it. -/
theorem walked_append (h : nextKey RawFrame.isKey fs = some s) : fs = walked fs ++ s := by
  cases fs with
  | nil => nomatch h
  | cons f fs =>
    rw [walked, List.cons_append]
    congr 1
    induction fs generalizing f with
    | nil => nomatch h
    | cons g gs ih =>
      by_cases hg : g.isKey = true
      · rw [nextKey, headKey, if_pos hg] at h
        rw [List.takeWhile_cons_of_neg (by simp [hg]), List.nil_append, Option.some.inj h]
      · rw [nextKey, headKey, if_neg hg] at h
        rw [List.takeWhile_cons_of_pos (by simpa using hg), List.cons_append, ← ih g h]

theorem mem_of_mem_walked {pre post : List RawFrame} {x f : RawFrame} (hpre : pre ≠ [])
    (hx : x.isKey = true) (hf : f ∈ walked (pre ++ x :: post)) : f ∈ pre := by
  cases pre with
  | nil => exact absurd rfl hpre
  | cons y pre =>
    rw [List.cons_append, walked, List.takeWhile_append] at hf
    rcases List.mem_cons.1 hf with rfl | hf
    · exact List.mem_cons_self
    · refine List.mem_cons_of_mem _ ?_
      split at hf
      · rw [List.takeWhile_cons_of_neg (by simp [hx]), List.append_nil] at hf
        exact hf
      · exact (List.takeWhile_sublist _).mem hf

/-- A key frame that leaves no room is passed like any other frame. -/
theorem rawEscapes_append {pre : List RawFrame} (hknown : ∀ f ∈ pre, f.known = true)
    (hfit : ¬ totalSize (itemSize RawFrame.data) s < size - len) :
    RawEscapes size len (pre ++ s) ↔ RawEscapes size len s := by
  constructor
  · rintro ⟨pre', x, post, hpre', heq, hknown', hx, hroom⟩
    rcases List.append_eq_append_iff.1 heq with ⟨mid, rfl, rfl⟩ | ⟨mid, rfl, hs⟩
    · refine ⟨mid, x, post, ?_, rfl, fun f hf => hknown' f (List.mem_append_right _ hf), hx, hroom⟩
      rintro rfl
      rw [List.nil_append] at hfit
      omega
    · rw [hs, totalSize_append] at hroom
      omega
  · rintro ⟨pre', x, post, hpre', rfl, hknown', hx, hroom⟩
    refine ⟨pre ++ pre', x, post, ?_, (List.append_assoc ..).symm, ?_, hx, hroom⟩
    · exact fun hnil => hpre' (List.append_eq_nil_iff.1 hnil).2
    · intro f hf
      rcases List.mem_append.1 hf with hf | hf
      · exact hknown f hf
      · exact hknown' f hf

/-- **`MoveReadPoint` returns exactly for readers that can escape.** -/
theorem moveReadPoint_returns_iff {fuel : ℕ} (h : RawUnread buff size w r fs) (hlen : len ≤ size)
    (hfuel : fs.length < fuel) :
    (∃ p, moveReadPoint w len buff size fuel r = .ok p) ↔ RawEscapes size len fs := by
  induction fuel generalizing r fs with
  | zero => omega
  | succ fuel ih =>
    rw [moveReadPoint,
      findNextIframe_raw h (Nat.lt_succ_of_le (h.length_le RawFrame.whole))]
    by_cases hall : ∀ f ∈ walked fs, f.known = true
    · rw [if_pos hall]
      cases hk : nextKey RawFrame.isKey fs with
      | none =>
        refine iff_of_false (by rintro ⟨p, ⟨⟩⟩) ?_
        rintro ⟨pre, x, post, hpre, hfs, -, hx, hroom⟩
        have hfit : totalSize (itemSize RawFrame.data) (x :: post) < size - len := by omega
        have hsome := resync_isSome_iff.2 ⟨pre, x, post, hpre, hfs, hx, hfit⟩
        rw [resync_eq_nextKey, hk] at hsome
        cases hsome
      | some s =>
        obtain ⟨pre, hpre, hfs, hkey⟩ := nextKey_suffix hk
        have hwalked : walked fs = pre :=
          List.append_cancel_right ((walked_append hk).symm.trans hfs)
        rw [hwalked] at hall
        subst hfs
        have hway := h.inTheWay_iff RawFrame.whole hpre hlen
        simp only [Option.map_some, Except.bind, totalSize_append, Nat.add_sub_cancel]
        by_cases hfit : totalSize (itemSize RawFrame.data) s < size - len
        · rw [if_neg (mt hway.1 (not_not_intro hfit))]
          refine iff_of_true ⟨_, rfl⟩ ?_
          cases s with
          | nil => exact absurd rfl (ne_nil_of_headKey hkey)
          | cons x post => exact ⟨pre, x, post, hpre, rfl, hall, hkey, by omega⟩
        · rw [if_pos (hway.2 hfit), rawEscapes_append hall hfit]
          refine ih (h.drop RawFrame.size_pos) ?_
          have hpos := List.length_pos_iff.2 hpre
          rw [List.length_append] at hfuel
          omega
    · rw [if_neg hall]
      refine iff_of_false (by rintro ⟨p, ⟨⟩⟩) ?_
      rintro ⟨pre, x, post, hpre, rfl, hknown, hx, -⟩
      exact hall fun f hf => hknown f (mem_of_mem_walked hpre hx hf)

/-- One reader, where the frame ends inside the buffer. -/
theorem contiguous_returns_iff (h : RawUnread buff size w r fs) (hlen : len ≤ size)
    (hc : w + len ≤ size) :
    (∃ p, balanceOne (fun r => decide (r > w ∧ r < w + len))
        (moveReadPoint w len buff size (size + 1)) (some r) = .ok p)
      ↔ (ranOver size w len r → RawEscapes size len fs) := by
  have hmove := moveReadPoint_returns_iff h hlen (Nat.lt_succ_of_le (h.length_le RawFrame.whole))
  rw [balanceOne, ranOver, if_pos hc]
  split
  · next hguard =>
    rw [decide_eq_true_iff] at hguard
    rw [← hmove, imp_iff_right hguard]
    exact exists_map_eq_ok_iff
  · next hguard =>
    rw [decide_eq_true_iff] at hguard
    exact iff_of_true ⟨_, rfl⟩ fun hover => absurd hover hguard

/-- One reader, where the frame goes on at the start of the buffer: a reader the first loop has moved stands
    clear of the second. -/
theorem wrapped_returns_iff (h : RawUnread buff size w r fs) (hw : w ≤ size) (hlen : len ≤ size)
    (hc : ¬ w + len ≤ size) :
    (∃ p, (balanceOne (fun r => decide (r > w ∧ r ≤ size))
        (moveReadPoint w len buff size (size + 1)) (some r)).bind
          (balanceOne (fun r => decide (r ≤ len - (size - w)))
            (moveReadPoint w len buff size (size + 1))) = .ok p)
      ↔ (ranOver size w len r → RawEscapes size len fs) := by
  have hmove := moveReadPoint_returns_iff h hlen (Nat.lt_succ_of_le (h.length_le RawFrame.whole))
  have hr := h.r_le
  rw [ranOver, if_neg hc, ← hmove]
  by_cases h1 : r > w
  · rw [imp_iff_right (Or.inl h1), balanceOne, if_pos (decide_eq_true ⟨h1, hr⟩)]
    constructor
    · rintro ⟨p, hp⟩
      obtain ⟨mid, hmid, -⟩ := bind_eq_ok_iff.1 hp
      obtain ⟨r', hr', -⟩ := map_eq_ok_iff.1 hmid
      exact ⟨r', hr'⟩
    · rintro ⟨r', hr'⟩
      obtain ⟨s, hs, hroom⟩ := h.move hlen hr'
      have hds := hs.dist
      have hdist := ringDist_cases size r' w
      have hr'le := hs.r_le
      refine ⟨some r', ?_⟩
      rw [hr']
      simp only [Except.map, Except.bind, balanceOne]
      rw [if_neg (by rw [decide_eq_true_iff]; omega)]
  · rw [balanceOne, if_neg (by rw [decide_eq_true_iff]; omega), Except.bind, balanceOne]
    split
    · next h2 =>
      rw [decide_eq_true_iff] at h2
      rw [imp_iff_right (Or.inr h2)]
      exact exists_map_eq_ok_iff
    · next h2 =>
      rw [decide_eq_true_iff] at h2
      exact iff_of_true ⟨_, rfl⟩ fun hover => hover.elim (absurd · h1) (absurd · h2)

end OneReader

/-! ## When `WriteData` returns -/

section AllReaders

variable {guard guard' : ℕ → Bool} {move : ℕ → Except Fault ℕ} {pRead : Fin queueUseMax → Option ℕ}

/-- The loop over the readers returns if it does for each of them. -/
theorem balanceReaders_returns_iff :
    (∃ pRead', balanceReaders guard move (List.finRange queueUseMax) pRead = .ok pRead')
      ↔ ∀ i, ∃ p, balanceOne guard move (pRead i) = .ok p := by
  have hmem := List.mem_finRange (n := queueUseMax)
  have hnd := List.nodup_finRange queueUseMax
  constructor
  · rintro ⟨pRead', h⟩ i
    exact ⟨pRead' i, (balanceReaders_inv hnd h i).1 (hmem i)⟩
  · intro h
    choose pRead' h using h
    exact ⟨pRead', balanceReaders_ok hnd (fun i _ => h i) fun i hi => absurd (hmem i) hi⟩

theorem balanceReaders_twice_returns_iff :
    (∃ pRead', (balanceReaders guard move (List.finRange queueUseMax) pRead).bind
        (balanceReaders guard' move (List.finRange queueUseMax)) = .ok pRead')
      ↔ ∀ i, ∃ p, (balanceOne guard move (pRead i)).bind (balanceOne guard' move) = .ok p := by
  have hmem := List.mem_finRange (n := queueUseMax)
  have hnd := List.nodup_finRange queueUseMax
  constructor
  · rintro ⟨pRead', h⟩ i
    obtain ⟨mid, h1, h2⟩ := bind_eq_ok_iff.1 h
    exact ⟨pRead' i, bind_eq_ok_iff.2 ⟨mid i, (balanceReaders_inv hnd h1 i).1 (hmem i),
      (balanceReaders_inv hnd h2 i).1 (hmem i)⟩⟩
  · intro h
    choose pRead' h using h
    obtain ⟨mid, h1, h2⟩ := balanceReaders_twice_ok guard guard' move h
    exact ⟨pRead', bind_eq_ok_iff.2 ⟨mid, h1, h2⟩⟩

end AllReaders

variable {q q' : QueueHandle} {w : ℕ}

theorem Framed.allRawEscape_iff {len : ℕ} (h : Framed q w) {P : Option ℕ → Prop} (hnone : P none)
    (hsome : ∀ r fs, RawUnread q.dataBuff q.dataBuffSize w r fs →
      (P (some r) ↔ (ranOver q.dataBuffSize w len r → RawEscapes q.dataBuffSize len fs))) :
    (∀ i, P (q.pRead i)) ↔ AllRawEscape q w len := by
  constructor
  · intro hall i r fs hr hun
    exact (hsome r fs hun).1 (hr ▸ hall i)
  · intro hall i
    cases hr : q.pRead i with
    | none => exact hnone
    | some r =>
      obtain ⟨fs, hun⟩ := h.readers i r hr
      exact (hsome r fs hun).2 (hall i r fs hr hun)

theorem Framed.balance_returns_iff {len : ℕ} (h : Framed q w) (hlen : len ≤ q.dataBuffSize) :
    (∃ pRead', balanceAll q w len = .ok pRead') ↔ AllRawEscape q w len := by
  rw [balanceAll]
  split
  · next hc =>
    rw [balanceReaders_returns_iff]
    exact h.allRawEscape_iff (P := fun r => ∃ p, balanceOne _ _ r = .ok p) ⟨none, rfl⟩
      fun r fs hun => contiguous_returns_iff hun hlen hc
  · next hc =>
    rw [balanceReaders_twice_returns_iff]
    exact h.allRawEscape_iff (P := fun r => ∃ p, (balanceOne _ _ r).bind (balanceOne _ _) = .ok p)
      ⟨none, rfl⟩ fun r fs hun => wrapped_returns_iff hun h.w_le hlen hc

/-- Where the call can do what it reports: the frame fits the staging buffer and the ring, the queue is in
    use, and every reader the frame is written over can be moved. -/
def RawCall.Taken (q : QueueHandle) (c : RawCall) : Prop :=
  c.frame.length ≤ c.stagingMax ∧ q.enabled = true ∧ ∃ w, q.pWrite = some w ∧
    c.frame.length ≤ q.dataBuffSize ∧ AllRawEscape q w c.frame.length

theorem Framed.inside {len : ℕ} (h : Framed q w) (hlen : len ≤ q.dataBuffSize) :
    Inside q.dataBuffSize (ringStores q len) := by
  have hw := h.w_le
  rw [ringStores, h.pWrite]
  simp only [h.enabled, Bool.true_eq_false, if_false]
  split
  · simp only [Inside, List.forall_mem_cons, List.not_mem_nil, false_imp_iff, implies_true, and_true]
    omega
  · simp only [Inside, List.forall_mem_cons, List.not_mem_nil, false_imp_iff, implies_true, and_true]
    omega

/-- On a queue in use, with whole frames before its readers. -/
theorem Framed.honest_iff {c : RawCall} (h : Framed q w) : Honest q c ↔ c.Taken q := by
  have hframe := c.length_frame
  constructor
  · intro hc
    have hmax := c.staging_iff.1 hc.staging
    obtain ⟨rc, q', hwrite, hplaced, -⟩ := hc.reports
    rw [c.write_eq q hmax, writeData_balances h.enabled h.pWrite h.len h.w_le] at hwrite
    obtain ⟨r, hr, hq⟩ := map_eq_ok_iff.1 hwrite
    obtain ⟨pRead', hb, -⟩ := map_eq_ok_iff.1 hr
    obtain ⟨w', hw', hfit, -⟩ := hplaced.1 (Prod.mk.inj hq).1.symm
    exact ⟨hmax, h.enabled, w, h.pWrite, hfit, (h.balance_returns_iff hfit).1 ⟨pRead', hb⟩⟩
  · rintro ⟨hmax, -, w', hw', hfit, hescape⟩
    obtain rfl := Option.some.inj (h.pWrite.symm.trans hw')
    obtain ⟨pRead', hb⟩ := (h.balance_returns_iff hfit).2 hescape
    have hwrite : c.write q = .ok (keyTrue, { q with
        pRead := pRead'
        dataBuff := ringWrite q.dataBuff w c.frame
        pWrite := some ((w + c.frame.length) % q.dataBuffSize) }) := by
      rw [c.write_eq q hmax, writeData_balances h.enabled h.pWrite h.len h.w_le, hb]
      rfl
    refine ⟨c.staging_iff.2 hmax, h.inside hfit, _, _, hwrite, iff_of_true rfl ?_,
      fun hne => absurd rfl hne⟩
    refine ⟨w, h.pWrite, hfit, ?_, rfl⟩
    have hlt := h.w_lt (by omega)
    have hbytes := ringSlice_ringWrite q.dataBuff c.frame (r := w) (w := w)
      (by rw [h.len]; exact hlt.le) (by rw [h.len]; exact hlt)
      (by rw [ringDist_self, h.len]; omega)
    rw [ringDist_self, Nat.zero_add, ringSlice_zero, List.nil_append] at hbytes
    exact hbytes

/-- A queue without a write pointer takes nothing, and success is reported. -/
theorem not_honest_of_unused {c : RawCall} (h : q.pWrite = none) : ¬ Honest q c := by
  intro hc
  have hmax := c.staging_iff.1 hc.staging
  obtain ⟨rc, q', hwrite, hplaced, -⟩ := hc.reports
  rw [c.write_eq q hmax, writeData, h] at hwrite
  obtain ⟨w, hw, -⟩ := hplaced.1 (Prod.mk.inj (Except.ok.inj hwrite)).1.symm
  rw [h] at hw
  cases hw

/-! ## Runs -/

/-- A call that reaches the queue. -/
inductive QueueUse where
  | create (queueSize : ℕ)
  | disdroy
  | call (e : QueueCall)
  /-- `MediaQueueUnRegistReadHandle` with the handle of a refused registration. -/
  | unRegistRefused
  deriving DecidableEq, Repr

/-- One completed call, each frame written fitting the queue. -/
inductive UseStep : QueueHandle → QueueUse → QueueHandle → Prop
  | create {q q' : QueueHandle} {queueSize : ℕ} :
      claimQueue q queueSize true = some q' → UseStep q (.create queueSize) q'
  | disdroy {q : QueueHandle} : q.enabled = true → UseStep q .disdroy unusedQueue
  | call {q q' : QueueHandle} {e : QueueCall} : RawStep q e q' → UseStep q (.call e) q'
  | unRegistRefused {q q' : QueueHandle} : clearReader q (-1) = .ok q' →
      UseStep q .unRegistRefused q'

theorem pWrite_none_of_step {e : QueueCall} (h : q.pWrite = none) (hs : RawStep q e q') :
    q'.pWrite = none := by
  cases hs with
  | regist hs =>
    rw [mediaQueueRegistReadHandle] at hs
    split at hs
    · exact (Prod.mk.inj hs).2 ▸ h
    · split at hs
      · exact (Prod.mk.inj hs).2 ▸ h
      · exact (Prod.mk.inj hs).2 ▸ h
  | unRegist i hs =>
    have hi := i.isLt
    rw [clearReader, if_neg (by omega), dif_pos ⟨by omega, by omega⟩] at hs
    exact (Except.ok.inj hs) ▸ h
  | video hfit hs =>
    rw [writeVideoRawData, writeData, h] at hs
    split at hs
    · cases hs
    · exact (Prod.mk.inj (Except.ok.inj hs)).2 ▸ h
  | audio hfit hs =>
    rw [writeAudioRawData, writeData, h] at hs
    split at hs
    · cases hs
    · exact (Prod.mk.inj (Except.ok.inj hs)).2 ▸ h
  | read i bufflen hs =>
    rw [readData] at hs
    split at hs
    · exact (Prod.mk.inj (Except.ok.inj hs)).2 ▸ h
    · split at hs
      · exact (Prod.mk.inj (Except.ok.inj hs)).2 ▸ h
      · rw [h] at hs
        cases hs

theorem UseStep.framed {e : QueueUse} (h : (∃ w, Framed q w) ∨ q.pWrite = none)
    (hs : UseStep q e q') : (∃ w, Framed q' w) ∨ q'.pWrite = none := by
  cases hs with
  | @create _ queueSize hs =>
    rw [claimQueue] at hs
    split at hs
    · nomatch hs
    · rw [if_pos rfl] at hs
      exact Or.inl ⟨0, Option.some.inj hs ▸ framed_createQueue queueSize⟩
  | disdroy hs => exact Or.inr rfl
  | call hs =>
    rcases h with ⟨w, h⟩ | h
    · exact Or.inl (h.step hs)
    · exact Or.inr (pWrite_none_of_step h hs)
  | unRegistRefused hs =>
    rw [clearReader, if_pos rfl] at hs
    exact Or.inr (by rw [← Except.ok.inj hs])

/-- In every state that is reached the queue has whole frames before its readers, or no write pointer. -/
theorem framed_of_run {tr : List QueueUse} (h : Run UseStep unusedQueue tr q) :
    (∃ w, Framed q w) ∨ q.pWrite = none :=
  Run.stateInvariant (fun q => (∃ w, Framed q w) ∨ q.pWrite = none) (Or.inr rfl)
    (fun _ _ _ hI hs => hs.framed hI) h

/-- **When a raw writer is honest.** In every state a queue reaches, a call of `WriteVideoRawData` or
    `WriteAudioRawData` stores within its staging buffer and the ring, returns, and reports success just
    when the whole frame was placed, exactly if the frame fits both, the queue is in use, and each
    reader it runs over has a key frame to go to. -/
theorem rawWrite_honest_iff {tr : List QueueUse} (h : Run UseStep unusedQueue tr q) (c : RawCall) :
    Honest q c ↔ c.Taken q := by
  rcases framed_of_run h with ⟨w, hq⟩ | hq
  · exact hq.honest_iff
  · refine iff_of_false (not_honest_of_unused hq) ?_
    rintro ⟨-, -, w, hw, -⟩
    rw [hq] at hw
    cases hw

/-- A queue of 6 MB, as the cameras' queues are, and an H264 frame for it. -/
theorem rawWrite_honest_iff_camera :
    ∃ q tr, Run UseStep unusedQueue tr q ∧ q.dataBuffSize = 6 * 1024 * 1024 ∧
      (Honest q (.video [1, 2, 3] ⟨0, 0, FrameType.i.code, 1, 1280, 720, 1024, 0, 0⟩ .h264) ↔
        RawCall.Taken q
          (.video [1, 2, 3] ⟨0, 0, FrameType.i.code, 1, 1280, 720, 1024, 0, 0⟩ .h264)) := by
  have h := (Run.nil : Run UseStep unusedQueue [] _)
    |>.snoc (a := .create (6 * 1024 * 1024)) (.create rfl)
  exact ⟨_, _, h, rfl, rawWrite_honest_iff h _⟩

/-- A G711A packet of 40 ms runs 32 bytes over its staging buffer; and a frame for a queue that was destroyed
    is reported as written. -/
theorem rawWriters_dishonest :
    (∃ q tr c, Run UseStep unusedQueue tr q ∧ q.dataBuffSize = 1024 ∧ c.data.length = 320 ∧
      ¬ Inside c.stagingMax c.stagingStores ∧ ¬ Honest q c) ∧
    ∃ q tr c, Run UseStep unusedQueue tr q ∧ tr = [.create 1024, .disdroy] ∧
      c.data = [1, 2, 3] ∧ c.write q = .ok (keyTrue, q) ∧ ¬ Placed q q c.frame ∧ ¬ Honest q c := by
  have h := (Run.nil : Run UseStep unusedQueue [] _) |>.snoc (a := .create 1024) (.create rfl)
  constructor
  · have hout : ∀ param mediaType,
        ¬ Inside audioRawMax (RawCall.audio (List.replicate 320 0) param mediaType).stagingStores := by
      intro param mediaType hin
      have hmax := (RawCall.staging_iff _).1 hin
      simp only [RawCall.length_frame, RawCall.stagingMax, RawCall.data, List.length_replicate,
        audioRawMax] at hmax
      omega
    exact ⟨_, _, .audio (List.replicate 320 0) ⟨8000, 1, 16, 1, 0, 0⟩ .g711a, h, rfl,
      List.length_replicate, hout _ _, fun hc => hout _ _ hc.staging⟩
  · have hnone : ∀ frame, ¬ Placed unusedQueue unusedQueue frame := by
      rintro _ ⟨_, hw, _⟩
      cases hw
    exact ⟨_, _, .video [1, 2, 3] ⟨0, 0, FrameType.i.code, 1, 1280, 720, 1024, 0, 0⟩ .h264,
      h.snoc (.disdroy rfl), rfl, rfl, rfl, hnone _, not_honest_of_unused rfl⟩

end SmartPlat.MediaQueue
