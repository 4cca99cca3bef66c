import SmartPlat.HkSdkManage.Stream

set_option autoImplicit false

/-! # Frames are put together again

What the packets of a stream carry is said by `Assembly`, which has no table and no buffers: the
payloads since the last pack header, and the frames so far. The cache of the stream stands for such an
assembly as long as the table and the buffer are large enough and the packets are whole. -/

namespace SmartPlat.HkSdkManage

open SmartPlat.Lib

/-! ## What the packets carry -/

/-- A video packet of the stream. -/
def Packet.IsVideo (p : Packet) : Prop :=
  p.dwDataType = netDvrStreamdata ∧ videoStart <+: p.pBuffer

def Packet.IsPackHeader (p : Packet) : Prop :=
  p.dwDataType = netDvrStreamdata ∧ packStart <+: p.pBuffer

instance (p : Packet) : Decidable p.IsVideo := inferInstanceAs (Decidable (_ ∧ _))

instance (p : Packet) : Decidable p.IsPackHeader := inferInstanceAs (Decidable (_ ∧ _))

/-- The payload of a PES packet, after nine bytes and as many header bytes as the ninth says. -/
def Packet.payload (p : Packet) : List UInt8 := p.pBuffer.drop (9 + (p.pBuffer.getD 8 0).toNat)

/-- The payloads of the video packets since the last pack header, and the frames before it. -/
structure Assembly where
  since : List (List UInt8)
  frames : List (List UInt8)

/-- The frame that a packet completes. -/
def Assembly.completed (a : Assembly) (p : Packet) : List (List UInt8) :=
  if p.IsPackHeader ∧ a.since.flatten ≠ [] then [a.since.flatten] else []

def Assembly.next (a : Assembly) (p : Packet) : Assembly where
  since := if p.IsPackHeader then [] else if p.IsVideo then a.since ++ [p.payload] else a.since
  frames := a.frames ++ a.completed p

def assembly (packets : List Packet) : Assembly := packets.foldl Assembly.next ⟨[], []⟩

/-! ## When the code can follow -/

/-- The packet ends within the bytes that `GetH246FromPS` looks at. -/
def Packet.Truncated (p : Packet) : Prop :=
  p.pBuffer ≠ [] ∧ p.pBuffer <+: [0x00, 0x00, 0x01] ∨
    videoStart <+: p.pBuffer ∧ p.pBuffer.length < 9

/-- A packet that is handled right on a stream with these payloads in its cache: the handle has a row,
    the row has a free slot, the packet is whole, a size that is no `int` does not lose it, and at a
    pack header the payloads fit the buffer. -/
def Packet.Fits (lRealHandle : ℤ) (since : List (List UInt8)) (p : Packet) : Prop :=
  p.dwDataType = netDvrStreamdata →
    (0 ≤ lRealHandle ∧ lRealHandle < netIpcMaxNum) ∧ since.length < maxFrameLenth ∧
      (if p.pBuffer.length < 2 ^ 31 then
        ¬ p.Truncated ∧
          (p.IsPackHeader → since.flatten.length ≤ since.length * maxPackSize)
      else ¬ p.IsVideo ∧ (p.IsPackHeader → since = []))

/-! ## Reading a packet -/

theorem comparePrefix_eq_true {pat b : List UInt8} : comparePrefix pat b = .ok true ↔ pat <+: b := by
  induction pat generalizing b with
  | nil => simp [comparePrefix]
  | cons x xs ih =>
      cases b with
      | nil => simp [comparePrefix]
      | cons y ys =>
          rw [comparePrefix, List.cons_prefix_cons]
          split
          · next h => rw [ih, and_iff_right h.symm]
          · next h =>
              simp only [Except.ok.injEq, Bool.false_eq_true, false_iff, not_and]
              exact fun hxy => absurd hxy.symm h

theorem comparePrefix_eq_error {pat b : List UInt8} {e : Fault} :
    comparePrefix pat b = .error e ↔ e = .badAccess ∧ b <+: pat ∧ b.length < pat.length := by
  induction pat generalizing b with
  | nil => simp [comparePrefix]
  | cons x xs ih =>
      cases b with
      | nil => simp [comparePrefix, eq_comm]
      | cons y ys =>
          rw [comparePrefix, List.cons_prefix_cons, List.length_cons, List.length_cons,
            Nat.succ_lt_succ_iff]
          split
          · next h => rw [ih, and_iff_right h]
          · next h => simp [h]

instance (p : Packet) : Decidable p.Truncated := inferInstanceAs (Decidable (_ ∧ _ ∨ _ ∧ _))

theorem prefix_start_iff {b : List UInt8} {x : UInt8} :
    b <+: [0x00, 0x00, 0x01, x] ∧ b.length < 4 ↔ b <+: [0x00, 0x00, 0x01] := by
  rw [show [0x00, 0x00, 0x01, x] = [0x00, 0x00, 0x01] ++ [x] from rfl, List.prefix_concat_iff]
  constructor
  · rintro ⟨rfl | h, hlt⟩
    · exact absurd hlt (by simp)
    · exact h
  · intro h
    exact ⟨.inr h, Nat.lt_of_le_of_lt h.length_le (by decide)⟩

theorem nBufLenth_of_lt {p : Packet} (h : p.pBuffer.length < 2 ^ 31) :
    p.nBufLenth = p.pBuffer.length := by
  unfold Packet.nBufLenth
  exact Int.bmod_eq_of_le (by omega) (by omega)

theorem nBufLenth_neg {p : Packet} (h : ¬ p.pBuffer.length < 2 ^ 31) : p.nBufLenth ≤ 0 := by
  have hlt := p.dwBufSize_lt
  unfold Packet.nBufLenth
  rw [Int.bmod_def]
  omega

/-- The slot of a video packet. -/
def Packet.videoSlot (p : Packet) : CacheBuffder :=
  ⟨some ⟨p.pBuffer.length, p.payload⟩, p.pBuffer.length - (9 + (p.pBuffer.getD 8 0).toNat)⟩

theorem copyPayload_eq {p : Packet} {slot : CacheBuffder} (hslot : slot.pCacheBuffer = none)
    (hsize : p.pBuffer.length < 2 ^ 31) :
    copyPayload p slot = if p.pBuffer.length < 9 then .error .badAccess else .ok p.videoSlot := by
  unfold copyPayload
  split
  · next h =>
      rw [List.getElem?_eq_none_iff] at h
      have hshort : p.pBuffer.length < 9 := by omega
      rw [if_pos hshort]
  · next pad h =>
      have hlt := (List.getElem?_eq_some_iff.1 h).1
      have hpad : p.pBuffer.getD 8 0 = pad := by
        rw [List.getD_eq_getElem?_getD, h, Option.getD_some]
      have hlong : ¬ p.pBuffer.length < 9 := by omega
      rw [if_neg hlong, hslot, nBufLenth_of_lt hsize, Packet.videoSlot, Packet.payload, hpad]
      simp only [Option.getD_none]
      by_cases hpos : (p.pBuffer.length : ℤ) - ((9 + pad.toNat : ℕ) : ℤ) > 0
      · rw [if_pos hpos, if_pos (by omega)]
        simp
      · -- the header says that it goes past the end of the packet
        rw [if_neg hpos, List.drop_eq_nil_of_le (by omega)]
        simp

theorem comparePrefix_videoStart_error {b : List UInt8} {e : Fault} :
    comparePrefix videoStart b = .error e ↔ e = .badAccess ∧ b <+: [0x00, 0x00, 0x01] := by
  rw [comparePrefix_eq_error]
  exact and_congr_right fun _ => prefix_start_iff

theorem comparePrefix_packStart_error {b : List UInt8} {e : Fault} :
    comparePrefix packStart b = .error e ↔ e = .badAccess ∧ b <+: [0x00, 0x00, 0x01] := by
  rw [comparePrefix_eq_error]
  exact and_congr_right fun _ => prefix_start_iff

/-- `GetH246FromPS` on a free slot. -/
theorem getH246FromPS_eq {p : Packet} {slot : CacheBuffder} (hslot : slot.pCacheBuffer = none) :
    getH246FromPS p slot =
      if ¬ p.pBuffer.length < 2 ^ 31 then .ok .other
      else if p.Truncated then .error .badAccess
      else if videoStart <+: p.pBuffer then .ok (.video p.videoSlot)
      else if packStart <+: p.pBuffer then .ok (.packHeader ⟨none, 0⟩)
      else .ok .other := by
  unfold getH246FromPS
  by_cases hsize : p.pBuffer.length < 2 ^ 31
  · rw [nBufLenth_of_lt hsize, if_neg (not_not.2 hsize)]
    by_cases hnil : p.pBuffer = []
    · rw [if_pos (by simp [hnil]), if_neg, if_neg, if_neg]
      · simp [hnil, packStart]
      · simp [hnil, videoStart]
      · simp [Packet.Truncated, hnil, videoStart]
    · rw [if_neg (by simpa using hnil)]
      have hshort : p.pBuffer <+: [0x00, 0x00, 0x01] → p.pBuffer.length < 4 := fun h =>
        Nat.lt_of_le_of_lt h.length_le (by decide)
      cases hv : comparePrefix videoStart p.pBuffer with
      | error e =>
          obtain ⟨rfl, hpre⟩ := comparePrefix_videoStart_error.1 hv
          rw [if_pos (.inl ⟨hnil, hpre⟩)]
          rfl
      | ok isVideo =>
          have hwhole : ¬ p.pBuffer <+: [0x00, 0x00, 0x01] := by
            intro hpre
            rw [comparePrefix_videoStart_error.2 ⟨rfl, hpre⟩] at hv
            cases hv
          cases isVideo with
          | true =>
              have hvideo := comparePrefix_eq_true.1 hv
              simp only [Except.bind, if_true, copyPayload_eq hslot hsize, if_pos hvideo]
              by_cases hlt : p.pBuffer.length < 9
              · rw [if_pos hlt, if_pos (.inr ⟨hvideo, hlt⟩)]
                rfl
              · rw [if_neg hlt, if_neg]
                · rfl
                · rintro (⟨-, hpre⟩ | ⟨-, hlt'⟩)
                  · exact hwhole hpre
                  · exact hlt hlt'
          | false =>
              have hvideo : ¬ videoStart <+: p.pBuffer := by
                rw [← comparePrefix_eq_true, hv]
                simp
              rw [if_neg (by rintro (⟨-, hpre⟩ | ⟨hpre, -⟩) <;> contradiction), if_neg hvideo]
              cases hp : comparePrefix packStart p.pBuffer with
              | error e => exact absurd (comparePrefix_packStart_error.1 hp).2 hwhole
              | ok isPack =>
                  cases isPack with
                  | true =>
                      rw [if_pos (comparePrefix_eq_true.1 hp)]
                      simp [Except.bind, Except.map]
                  | false =>
                      rw [if_neg (by rw [← comparePrefix_eq_true, hp]; simp)]
                      simp [Except.bind, Except.map]
  · rw [if_pos (nBufLenth_neg hsize), if_pos hsize]

/-! ## Assembling the frame -/

/-- The cache stands for these payloads, in order. -/
structure FrameCache.Holds (cache : FrameCache) (since : List (List UInt8)) : Prop where
  length : cache.m_mFrameCacheLenth = since.length
  cached : ∀ i x, since[i]? = some x → ∃ buffer,
    (cache.m_pFrameCache i).pCacheBuffer = some buffer ∧ buffer.bytes = x ∧
      (cache.m_pFrameCache i).nCacheBufLenth.toNat = x.length
  free : ∀ i, since.length ≤ i → (cache.m_pFrameCache i).pCacheBuffer = none

theorem copyCached_eq {size : ℕ} {nal x : List UInt8} {slot : CacheBuffder} {buffer : HeapBuffer}
    (hslot : slot.pCacheBuffer = some buffer) (hbytes : buffer.bytes = x)
    (hlen : slot.nCacheBufLenth.toNat = x.length) (hnal : nal.length ≤ size) :
    copyCached size nal slot =
      if nal.length + x.length ≤ size then .ok (nal ++ x) else .error .badAccess := by
  rw [copyCached, hslot]
  simp only [hbytes, hlen, List.take_length]
  by_cases hpos : slot.nCacheBufLenth > 0
  · have hn : slot.nCacheBufLenth = x.length := by omega
    rw [if_pos hpos, hn]
    refine if_congr ?_ rfl rfl
    omega
  · have hx : x = [] := List.length_eq_zero_iff.1 (by omega)
    rw [if_neg hpos, hx, if_pos (by simpa using hnal), List.append_nil]

/-- Copying goes through exactly when the payloads fit the buffer. -/
theorem FrameCache.Holds.foldlM_copyCached {cache : FrameCache} {since : List (List UInt8)}
    (h : cache.Holds since) (size k : ℕ) (hk : k ≤ since.length) :
    (List.range k).foldlM (fun nal i => copyCached size nal (cache.m_pFrameCache i)) [] =
      if (since.take k).flatten.length ≤ size then .ok (since.take k).flatten
      else .error .badAccess := by
  induction k with
  | zero => simp [pure, Except.pure]
  | succ k ih =>
      obtain ⟨x, hx⟩ : ∃ x, since[k]? = some x := ⟨since[k], List.getElem?_eq_getElem hk⟩
      obtain ⟨buffer, hbuffer, hbytes, hlen⟩ := h.cached k x hx
      have htake : (since.take (k + 1)).flatten = (since.take k).flatten ++ x := by
        rw [List.take_add_one, hx, List.flatten_append]
        simp
      rw [List.range_succ, List.foldlM_append, ih (by omega), htake, List.length_append]
      by_cases hfits : (since.take k).flatten.length ≤ size
      · rw [if_pos hfits]
        simp only [bind, Except.bind, List.foldlM_cons, List.foldlM_nil]
        rw [copyCached_eq hbuffer hbytes hlen hfits]
        by_cases hroom : (since.take k).flatten.length + x.length ≤ size
        · rw [if_pos hroom]
          rfl
        · rw [if_neg hroom]
      · rw [if_neg hfits, if_neg (by omega)]
        rfl

theorem FrameCache.Holds.assemble_eq {cache : FrameCache} {since : List (List UInt8)}
    (h : cache.Holds since) :
    assemble cache = if since.flatten.length ≤ since.length * maxPackSize then .ok since.flatten
      else .error .badAccess := by
  rw [assemble, h.length, h.foldlM_copyCached _ _ (Nat.le_refl _), List.take_length]

/-! ## One packet -/

/-- The cache, and what has been written to the media queue. -/
structure StreamState where
  fd : FrameFd
  pushed : List PushedFrame

def StreamState.init : StreamState := ⟨.zero, []⟩

variable {queueid : ℕ} {lRealHandle : ℤ}

/-- The callback for the stream with this handle, whose channel has this queue, returns. -/
def StreamStep (queueid : ℕ) (lRealHandle : ℤ) (s : StreamState) (p : Packet) (s' : StreamState) :
    Prop :=
  ∃ r, realData queueid lRealHandle p s.fd = .ok r ∧ s' = ⟨r.1, s.pushed ++ r.2.toList⟩

/-- The frames are in the queue, and the cache holds the payloads since the last pack header. -/
structure Reassembled (queueid : ℕ) (lRealHandle : ℤ) (a : Assembly) (s : StreamState) : Prop where
  pushed : s.pushed.map (fun f => (f.queueid, f.data)) = a.frames.map (fun d => ((queueid : ℤ), d))
  holds : (s.fd lRealHandle).Holds a.since

theorem reassembled_init : Reassembled queueid lRealHandle (assembly []) .init where
  pushed := rfl
  holds := ⟨rfl, by simp [assembly], fun _ _ => rfl⟩

theorem writeH264DataToChace_map (data : List UInt8) :
    (writeH264DataToChace queueid data).toList.map (fun f => (f.queueid, f.data)) =
      if data = [] then [] else [((queueid : ℤ), data)] := by
  unfold writeH264DataToChace
  by_cases hnil : data = []
  · rw [if_pos (by simp [hnil]), if_pos hnil]
    rfl
  · have hpos : ¬ (data.length ≤ 0 ∨ (queueid : ℤ) < 0) := by
      have := List.length_pos_iff.2 hnil
      omega
    rw [if_neg hpos, if_neg hnil]
    rfl

section

variable {cache : FrameCache} {since : List (List UInt8)} {p : Packet}

theorem FrameCache.Holds.video (h : cache.Holds since) :
    FrameCache.Holds { cache.setSlot cache.m_mFrameCacheLenth p.videoSlot with
      m_mFrameCacheLenth := cache.m_mFrameCacheLenth + 1 } (since ++ [p.payload]) := by
  have hlength := h.length
  constructor
  · simp [hlength]
  · intro i x hx
    have hlt := (List.getElem?_eq_some_iff.1 hx).1
    rw [List.length_append, List.length_singleton] at hlt
    by_cases hi : i = cache.m_mFrameCacheLenth
    · rw [hi, hlength, List.getElem?_concat_length, Option.some.injEq] at hx
      simp only [hi, FrameCache.setSlot_self]
      refine ⟨_, rfl, hx, ?_⟩
      rw [← hx, Packet.payload, List.length_drop]
      simp only [Packet.videoSlot]
      omega
    · simp only [FrameCache.setSlot_of_ne _ _ hi]
      refine h.cached i x ?_
      rwa [List.getElem?_append_left (by omega)] at hx
  · intro i hi
    rw [List.length_append, List.length_singleton] at hi
    simp only [FrameCache.setSlot_of_ne cache p.videoSlot
      (show i ≠ cache.m_mFrameCacheLenth by omega)]
    exact h.free i (by omega)

/-- The slot that a pack header clears is free anyway. -/
theorem FrameCache.Holds.setSlot (h : cache.Holds since) :
    (cache.setSlot cache.m_mFrameCacheLenth ⟨none, 0⟩).Holds since := by
  have hlength := h.length
  refine ⟨hlength, fun i x hx => ?_, fun i hi => ?_⟩
  · have hlt := (List.getElem?_eq_some_iff.1 hx).1
    rw [FrameCache.setSlot_of_ne _ _ (by omega)]
    exact h.cached i x hx
  · by_cases hi' : i = cache.m_mFrameCacheLenth
    · rw [hi', FrameCache.setSlot_self]
    · rw [FrameCache.setSlot_of_ne _ _ hi']
      exact h.free i hi

theorem FrameCache.Holds.clear (h : cache.Holds since) : cache.clear.Holds [] := by
  refine ⟨rfl, by simp, fun i _ => ?_⟩
  simp only [FrameCache.clear]
  split
  · rfl
  · next hi => exact h.free i (by rw [← h.length]; omega)

theorem FrameCache.Holds.unique {since' : List (List UInt8)} (h : cache.Holds since)
    (h' : cache.Holds since') : since = since' := by
  refine List.ext_getElem? fun i => ?_
  have hlen : since.length = since'.length := h.length.symm.trans h'.length
  cases hx : since[i]? with
  | none =>
      rw [List.getElem?_eq_none_iff, hlen] at hx
      exact (List.getElem?_eq_none_iff.2 hx).symm
  | some x =>
      have hlt := (List.getElem?_eq_some_iff.1 hx).1
      obtain ⟨b, hb, hbx, -⟩ := h.cached i x hx
      obtain ⟨b', hb', hbx', -⟩ := h'.cached i since'[i] (List.getElem?_eq_getElem (by omega))
      obtain rfl := Option.some.inj (hb.symm.trans hb')
      rw [List.getElem?_eq_getElem (by omega), ← hbx', hbx]

theorem streamData_eq (h : cache.Holds since) :
    streamData queueid p cache =
      if ¬ since.length < maxFrameLenth then .error .badAccess
      else if ¬ p.pBuffer.length < 2 ^ 31 then .ok (cache, none)
      else if p.Truncated then .error .badAccess
      else if videoStart <+: p.pBuffer then
        .ok ({ cache.setSlot cache.m_mFrameCacheLenth p.videoSlot with
          m_mFrameCacheLenth := cache.m_mFrameCacheLenth + 1 }, none)
      else if packStart <+: p.pBuffer then
        if since = [] then .ok (cache.setSlot cache.m_mFrameCacheLenth ⟨none, 0⟩, none)
        else if since.flatten.length ≤ since.length * maxPackSize then
          .ok ((cache.setSlot cache.m_mFrameCacheLenth ⟨none, 0⟩).clear,
            writeH264DataToChace queueid since.flatten)
        else .error .badAccess
      else .ok (cache, none) := by
  have hslot : (cache.m_pFrameCache cache.m_mFrameCacheLenth).pCacheBuffer = none :=
    h.free _ h.length.ge
  unfold streamData
  simp only [getH246FromPS_eq hslot]
  by_cases hroom : since.length < maxFrameLenth
  · rw [if_pos (by rwa [h.length]), if_neg (not_not.2 hroom)]
    split
    · rfl
    · split
      · rfl
      · split
        · rfl
        · split
          · simp only [Except.bind]
            by_cases hnil : since = []
            · rw [if_neg (by simp [h.length, hnil]), if_pos hnil]
            · have hpos : cache.m_mFrameCacheLenth > 0 := by
                rw [h.length]
                exact List.length_pos_iff.2 hnil
              rw [if_pos hpos, if_neg hnil, h.setSlot.assemble_eq]
              split <;> rfl
          · rfl
  · rw [if_neg (by rwa [h.length]), if_pos hroom]

theorem not_video_of_pack (h : packStart <+: p.pBuffer) : ¬ videoStart <+: p.pBuffer := by
  intro h'
  have heq := List.prefix_of_prefix_length_le h h' (Nat.le_refl _)
  exact absurd heq (by decide)

/-- A packet that completes nothing. -/
theorem Assembly.completed_of_not (a : Assembly) (h : ¬ p.IsPackHeader) : a.completed p = [] :=
  if_neg fun hp => h hp.1

/-- Nothing is done for a packet: that is right if it starts nothing, and ends nothing. -/
theorem FrameCache.Holds.skip_iff {a : Assembly} (h : cache.Holds a.since) :
    cache.Holds (a.next p).since ∧ a.completed p = [] ↔
      ¬ p.IsVideo ∧ (p.IsPackHeader → a.since = []) := by
  rw [Assembly.next]
  constructor
  · rintro ⟨hc, -⟩
    have hsame := h.unique hc
    by_cases hb : p.IsPackHeader
    · rw [if_pos hb] at hsame
      exact ⟨fun hv => not_video_of_pack hb.2 hv.2, fun _ => hsame⟩
    · rw [if_neg hb] at hsame
      refine ⟨fun hv => ?_, fun hb' => absurd hb' hb⟩
      rw [if_pos hv] at hsame
      exact absurd (congrArg List.length hsame) (by simp)
  · intro ⟨hv, hb⟩
    rw [if_neg hv]
    refine ⟨?_, ?_⟩
    · split
      · next hheader => exact hb hheader ▸ h
      · exact h
    · rw [Assembly.completed, if_neg fun hc => hc.2 (by simp [hb hc.1])]

/-- A stream-data packet is handled right exactly when it fits. -/
theorem FrameCache.Holds.streamData_iff {a : Assembly} (h : cache.Holds a.since)
    (hp : p.dwDataType = netDvrStreamdata) :
    (∃ c f, streamData queueid p cache = .ok (c, f) ∧ c.Holds (a.next p).since ∧
        f.toList.map (fun f => (f.queueid, f.data)) =
          (a.completed p).map (fun d => ((queueid : ℤ), d))) ↔
      a.since.length < maxFrameLenth ∧
        (if p.pBuffer.length < 2 ^ 31 then
          ¬ p.Truncated ∧ (p.IsPackHeader → a.since.flatten.length ≤ a.since.length * maxPackSize)
        else ¬ p.IsVideo ∧ (p.IsPackHeader → a.since = [])) := by
  have hvideo : p.IsVideo ↔ videoStart <+: p.pBuffer := and_iff_right hp
  have hpack : p.IsPackHeader ↔ packStart <+: p.pBuffer := and_iff_right hp
  rw [streamData_eq h]
  by_cases hroom : a.since.length < maxFrameLenth
  swap
  · simp [hroom]
  rw [if_neg (not_not.2 hroom), and_iff_right hroom]
  by_cases hsize : p.pBuffer.length < 2 ^ 31
  · rw [if_neg (not_not.2 hsize), if_pos hsize]
    by_cases htrunc : p.Truncated
    · simp [htrunc]
    rw [if_neg htrunc, and_iff_right htrunc]
    by_cases hv : videoStart <+: p.pBuffer
    · have hnot : ¬ p.IsPackHeader := fun hpk => not_video_of_pack (hpack.1 hpk) hv
      rw [if_pos hv]
      refine iff_of_true ⟨_, _, rfl, ?_, ?_⟩ fun hpk => absurd hpk hnot
      · rw [Assembly.next, if_neg hnot, if_pos (hvideo.2 hv)]
        exact h.video
      · rw [a.completed_of_not hnot]
        rfl
    · rw [if_neg hv]
      by_cases hb : packStart <+: p.pBuffer
      · have hheader := hpack.2 hb
        have hsince : (a.next p).since = [] := by rw [Assembly.next, if_pos hheader]
        rw [if_pos hb, hsince]
        by_cases hnil : a.since = []
        · rw [if_pos hnil]
          refine iff_of_true ⟨_, _, rfl, hnil ▸ h.setSlot, ?_⟩ fun _ => by simp [hnil]
          simp [Assembly.completed, hnil]
        · rw [if_neg hnil]
          by_cases hfits : a.since.flatten.length ≤ a.since.length * maxPackSize
          · rw [if_pos hfits]
            refine iff_of_true ⟨_, _, rfl, h.setSlot.clear, ?_⟩ fun _ => hfits
            rw [writeH264DataToChace_map, Assembly.completed]
            by_cases hempty : a.since.flatten = []
            · rw [if_pos hempty, if_neg (by simp [hempty])]
              rfl
            · rw [if_neg hempty, if_pos ⟨hheader, hempty⟩]
              rfl
          · rw [if_neg hfits]
            refine iff_of_false ?_ fun h => hfits (h hheader)
            rintro ⟨_, _, hok, -⟩
            cases hok
      · have hnot : ¬ p.IsPackHeader := fun hpk => hb (hpack.1 hpk)
        rw [if_neg hb]
        refine iff_of_true ⟨_, _, rfl, ?_, ?_⟩ fun hpk => absurd hpk hnot
        · rw [Assembly.next, if_neg hnot, if_neg (fun hv' => hv (hvideo.1 hv'))]
          exact h
        · rw [a.completed_of_not hnot]
          rfl
  · -- the size is negative as an `int`, and the packet is ignored
    rw [if_pos hsize, if_neg hsize, ← h.skip_iff]
    constructor
    · rintro ⟨c, f, hok, hc, hframes⟩
      simp only [Except.ok.injEq, Prod.mk.injEq] at hok
      obtain ⟨rfl, rfl⟩ := hok
      exact ⟨hc, List.map_eq_nil_iff.1 hframes.symm⟩
    · intro ⟨hc, hnone⟩
      exact ⟨cache, none, rfl, hc, by rw [hnone]; rfl⟩

end

/-- One packet is handled right exactly when it fits. -/
theorem Reassembled.step_iff {a : Assembly} {s : StreamState} {p : Packet}
    (h : Reassembled queueid lRealHandle a s) :
    (∃ s', StreamStep queueid lRealHandle s p s' ∧
        Reassembled queueid lRealHandle (a.next p) s') ↔ p.Fits lRealHandle a.since := by
  by_cases hp : p.dwDataType = netDvrStreamdata
  · rw [Packet.Fits, forall_prop_of_true hp]
    by_cases hrow : 0 ≤ lRealHandle ∧ lRealHandle < netIpcMaxNum
    · rw [and_iff_right hrow, ← h.holds.streamData_iff hp]
      constructor
      · rintro ⟨s', ⟨r, hr, rfl⟩, hre⟩
        rw [realData, if_pos hp, if_pos hrow] at hr
        obtain ⟨⟨c, f⟩, hcf, rfl⟩ := map_eq_ok_iff.1 hr
        refine ⟨c, f, hcf, by simpa using hre.holds, ?_⟩
        have hpushed := hre.pushed
        rw [List.map_append, Assembly.next, List.map_append, h.pushed] at hpushed
        exact List.append_cancel_left hpushed
      · rintro ⟨c, f, hcf, hholds, hf⟩
        refine ⟨_, ⟨(Function.update s.fd lRealHandle c, f), ?_, rfl⟩, ?_, by simpa using hholds⟩
        · rw [realData, if_pos hp, if_pos hrow, hcf]
          rfl
        · rw [List.map_append, Assembly.next, List.map_append, h.pushed, hf]
    · refine iff_of_false ?_ fun hfits => hrow hfits.1
      rintro ⟨s', ⟨r, hr, -⟩, -⟩
      rw [realData, if_pos hp, if_neg hrow] at hr
      cases hr
  · have hnot : a.next p = a := by
      have hb : ¬ p.IsPackHeader := fun hb => hp hb.1
      rw [Assembly.next, a.completed_of_not hb, if_neg hb, if_neg fun hv => hp hv.1,
        List.append_nil]
    refine iff_of_true ⟨s, ⟨(s.fd, none), ?_, by simp⟩, ?_⟩ fun hp' => absurd hp' hp
    · rw [realData, if_neg hp]
    · rw [hnot]
      exact h

/-! ## Streams of packets -/

theorem assembly_concat (packets : List Packet) (p : Packet) :
    assembly (packets ++ [p]) = (assembly packets).next p := by
  rw [assembly, List.foldl_append]
  rfl

theorem streamStep_deterministic (s : StreamState) (p : Packet) (s₁ s₂ : StreamState)
    (h₁ : StreamStep queueid lRealHandle s p s₁) (h₂ : StreamStep queueid lRealHandle s p s₂) :
    s₁ = s₂ := by
  obtain ⟨r, hr, rfl⟩ := h₁
  obtain ⟨r', hr', rfl⟩ := h₂
  obtain rfl := Except.ok.inj (hr.symm.trans hr')
  rfl

/-- **Frames are put together again.** The callback handles every packet of a stream without leaving
    its table and buffers, and has pushed the payloads between two pack headers as one frame each,
    exactly when every packet fits. -/
theorem stream_reassembled_iff (packets : List Packet) :
    (∀ pre, pre <+: packets → ∃ s, Run (StreamStep queueid lRealHandle) .init pre s ∧
        Reassembled queueid lRealHandle (assembly pre) s) ↔
      ∀ pre p, pre ++ [p] <+: packets → p.Fits lRealHandle (assembly pre).since := by
  constructor
  · intro h pre p hpre
    obtain ⟨s, hrun, hre⟩ := h pre ((List.prefix_append _ _).trans hpre)
    obtain ⟨s', hrun', hre'⟩ := h (pre ++ [p]) hpre
    rw [assembly_concat] at hre'
    obtain ⟨s₁, hrun₁, hstep⟩ := run_concat_iff.1 hrun'
    obtain rfl := hrun.deterministic streamStep_deterministic hrun₁
    exact hre.step_iff.1 ⟨_, hstep, hre'⟩
  · intro h pre hpre
    induction pre using List.reverseRecOn with
    | nil => exact ⟨.init, .nil, reassembled_init⟩
    | append_singleton pre p ih =>
        obtain ⟨s, hrun, hre⟩ := ih ((List.prefix_append _ _).trans hpre)
        obtain ⟨s', hstep, hre'⟩ := hre.step_iff.2 (h pre p hpre)
        exact ⟨s', hrun.snoc hstep, by rwa [assembly_concat]⟩

/-- A video packet with so many bytes of payload. -/
def sampleVideo (n : Fin 6000) : Packet where
  dwDataType := netDvrStreamdata
  pBuffer := videoStart ++ [0, 0, 0, 0, 0] ++ List.replicate n 0
  dwBufSize_lt := by
    have hn := n.2
    rw [List.length_append, List.length_append, List.length_replicate]
    simp only [videoStart, List.length_cons, List.length_nil]
    omega

/-- A pack header. -/
def samplePack : Packet := ⟨netDvrStreamdata, packStart, by decide⟩

instance Packet.decidableFits (since : List (List UInt8)) (p : Packet) :
    Decidable (p.Fits lRealHandle since) :=
  inferInstanceAs (Decidable (_ → _ ∧ _ ∧ ite _ _ _))

/-- The payload of one packet does not fit the buffer for one packet. -/
theorem large_packet_overruns :
    ¬ ∀ pre, pre <+: [sampleVideo 5200, samplePack] →
      ∃ s, Run (StreamStep 0 0) .init pre s ∧ Reassembled 0 0 (assembly pre) s := by
  intro h
  obtain ⟨s', hrun', hre'⟩ := h [sampleVideo 5200, samplePack] List.prefix_rfl
  obtain ⟨s, hrun, hre⟩ := h [sampleVideo 5200] (List.prefix_append _ _)
  obtain ⟨s₁, hrun₁, hstep⟩ := run_concat_iff.1 (List.singleton_append.symm ▸ hrun')
  obtain rfl := hrun.deterministic streamStep_deterministic hrun₁
  have hfits : samplePack.Fits 0 (assembly [sampleVideo 5200]).since :=
    hre.step_iff.1 ⟨s', hstep, hre'⟩
  exact absurd hfits (by decide +kernel)

end SmartPlat.HkSdkManage
