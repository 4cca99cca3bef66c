import SmartPlat.MediaQueue.Proofs.Refinement
import SmartPlat.MediaQueue.Queue

set_option autoImplicit false

/-! # Media queue: frames of any media type

The two raw writers take any media type; `ReadData` and `FindNextIframe` know the lengths of H264, H265
and G711A frames only. Here the queue holds frames of any type: the walk of the readers is right as far
as it does not pass a frame of another type. -/

namespace SmartPlat.MediaQueue

open SmartPlat.Lib

/-! ## Frames -/

/-- A whole frame of any media type. -/
structure RawFrame where
  data : List UInt8
  synced : (MeidaHead.ofBytes data).synced = true
  headed : sizeofMeidaVideo ≤ data.length
  datalen : int32At data 28 = data.length - 32
  fits : data.length < 2 ^ 31

/-- The media type is H264, H265 or G711A. -/
def RawFrame.known (f : RawFrame) : Bool :=
  (MeidaHead.ofBytes f.data).isVideo || (MeidaHead.ofBytes f.data).isAudio

/-- A non-P video frame. -/
def RawFrame.isKey (f : RawFrame) : Bool :=
  (MeidaHead.ofBytes f.data).isVideo && meidaVideoFrametype f.data != FrameType.p.code

/-- What the two raw writers build, whatever the media type. -/
def RawFrame.ofRaw (mediaType : MediaType) (info data : List UInt8) (hinfo : info.length = 24)
    (hlen : 32 + data.length < 2 ^ 31) : RawFrame where
  data := rawFrame mediaType info data
  synced := synced_rawFrame mediaType info data
  headed := headed_rawFrame mediaType data hinfo
  datalen := payload_rawFrame mediaType hinfo hlen
  fits := fits_rawFrame mediaType hinfo hlen

theorem RawFrame.whole (f : RawFrame) : WholeFrame f.data := ⟨f.synced, f.headed, f.datalen, f.fits⟩

theorem RawFrame.size_pos (f : RawFrame) : 0 < itemSize RawFrame.data f := f.whole.size_pos

/-- The frames that the walk from the first one to the next key frame passes. -/
def walked : List RawFrame → List RawFrame
  | [] => []
  | f :: fs => f :: fs.takeWhile fun g => !g.isKey

variable {buff : List UInt8} {size w r : ℕ} {f : RawFrame} {fs : List RawFrame}

/-- The frames `fs` stand between `r` and the write pointer. -/
abbrev RawUnread (buff : List UInt8) (size w r : ℕ) (fs : List RawFrame) : Prop :=
  Blocks RawFrame.data buff size w r fs

/-! ## ReadData -/

variable {q q' : QueueHandle} {i : Fin queueUseMax}

/-- Reader `i` at `r`, with the frames `fs` before it, gets the first of them, and stands behind it; with
    no frame, or with too small a buffer, it gets nothing. -/
def ReadsFirst (q : QueueHandle) (i : Fin queueUseMax) (r : ℕ) (fs : List RawFrame)
    (bufflen : ℤ) : Prop :=
  readData i q bufflen = match fs with
    | [] => .ok (none, q)
    | f :: _ =>
        if (f.data.length : ℤ) ≤ bufflen then
          .ok (some f.data, { q with
            pRead := Function.update q.pRead i
              (some (ringAdvance q.dataBuffSize r f.data.length)) })
        else .ok (none, q)

/-- A reader reads as it should exactly if its next frame is of a type that is known. -/
theorem readsFirst_iff (henabled : q.enabled = true) (hw : q.pWrite = some w)
    (hr : q.pRead i = some r) (hun : RawUnread q.dataBuff q.dataBuffSize w r fs) :
    (∀ bufflen, ReadsFirst q i r fs bufflen) ↔ ∀ f ∈ fs.head?, f.known = true := by
  cases fs with
  | nil =>
    refine ⟨fun _ f hf => absurd hf (by simp), fun _ bufflen => ?_⟩
    exact hun.readData_nil henabled hw hr bufflen
  | cons f fs =>
    simp only [List.head?_cons, Option.mem_some_iff, forall_eq']
    constructor
    · intro hall
      by_contra hk
      have hread := hall 0
      have hpos : 0 < f.data.length := f.size_pos
      rw [ReadsFirst, hun.readData_cons henabled hw hr f.whole,
        if_neg (c := lengthKnown f.data = true) hk, if_pos le_rfl, if_neg (by omega)] at hread
      exact absurd hread (by simp)
    · intro hk bufflen
      rw [ReadsFirst, hun.readData_cons henabled hw hr f.whole,
        if_pos (c := lengthKnown f.data = true) hk]

/-! ## FindNextIframe -/

/-- The walk of `FindNextIframe` from `r` passes each frame by its header and its payload, and finds the
    next key frame behind the first one, if there is one. -/
def WalksFrames (q : QueueHandle) (w r : ℕ) (fs : List RawFrame) : Prop :=
  findNextIframe w q.dataBuff q.dataBuffSize (q.dataBuffSize + 1) r
    = .ok ((nextKey RawFrame.isKey fs).map fun s =>
        ringAdvance q.dataBuffSize r
          (totalSize (itemSize RawFrame.data) fs - totalSize (itemSize RawFrame.data) s))

/-- The walk goes wrong at the first frame of a type that is not known. -/
theorem findNextIframe_raw {fuel : ℕ} (h : RawUnread buff size w r fs) (hfuel : fs.length < fuel) :
    findNextIframe w buff size fuel r
      = if ∀ f ∈ walked fs, f.known = true then
          .ok ((nextKey RawFrame.isKey fs).map fun s =>
            ringAdvance size r
              (totalSize (itemSize RawFrame.data) fs - totalSize (itemSize RawFrame.data) s))
        else .error .badAccess := by
  have hwalked : walked fs = passed RawFrame.isKey fs := by cases fs <;> rfl
  rw [h.findNextIframe_eq RawFrame.whole hfuel, hwalked]
  rfl

theorem walksFrames_iff (hun : RawUnread q.dataBuff q.dataBuffSize w r fs) :
    WalksFrames q w r fs ↔ ∀ f ∈ walked fs, f.known = true := by
  rw [WalksFrames, findNextIframe_raw hun (Nat.lt_succ_of_le (hun.length_le RawFrame.whole))]
  split
  · next hall => exact iff_of_true rfl hall
  · next hnot => exact iff_of_false (by simp) hnot

/-! ## Runs with frames of any type -/

/-- A call of the interface; the arguments of a write are left out. -/
inductive QueueCall where
  | regist
  | unRegist (i : Fin queueUseMax)
  | video (mediaType : MediaType)
  | audio (mediaType : MediaType)
  | read (i : Fin queueUseMax) (bufflen : ℤ)
  deriving DecidableEq, Repr

/-- One completed call. Either writer is given any media type, and frames that fit the queue. -/
inductive RawStep : QueueHandle → QueueCall → QueueHandle → Prop
  | regist {q q' : QueueHandle} {rc : ℤ} :
      mediaQueueRegistReadHandle q = (rc, q') → RawStep q .regist q'
  | unRegist {q q' : QueueHandle} (i : Fin queueUseMax) :
      clearReader q (i : ℕ) = .ok q' → RawStep q (.unRegist i) q'
  | video {q q' : QueueHandle} {data : List UInt8} {param : QueueVideoInputInfo}
      {mediaType : MediaType} {rc : ℤ} :
      sizeofMeidaVideo + data.length ≤ q.dataBuffSize →
        writeVideoRawData q data param mediaType = .ok (rc, q') → RawStep q (.video mediaType) q'
  | audio {q q' : QueueHandle} {data : List UInt8} {param : QueueAudioInputInfo}
      {mediaType : MediaType} {rc : ℤ} :
      sizeofMeidaAudio + data.length ≤ q.dataBuffSize →
        writeAudioRawData q data param mediaType = .ok (rc, q') → RawStep q (.audio mediaType) q'
  | read {q q' : QueueHandle} (i : Fin queueUseMax) (bufflen : ℤ) {data : Option (List UInt8)} :
      readData i q bufflen = .ok (data, q') → RawStep q (.read i bufflen) q'

/-- Every reader of the queue has whole frames before it. -/
structure Framed (q : QueueHandle) (w : ℕ) : Prop where
  enabled : q.enabled = true
  pWrite : q.pWrite = some w
  len : q.dataBuff.length = q.dataBuffSize
  w_le : w ≤ q.dataBuffSize
  w_lt : 0 < q.dataBuffSize → w < q.dataBuffSize
  readers : ∀ i r, q.pRead i = some r → ∃ fs, RawUnread q.dataBuff q.dataBuffSize w r fs

theorem framed_createQueue (queueSize : ℕ) : Framed (createQueue queueSize) 0 where
  enabled := rfl
  pWrite := rfl
  len := List.length_replicate
  w_le := Nat.zero_le _
  w_lt := id
  readers := fun _ _ h => absurd h (by simp [createQueue])

/-- Pointers may be set to `NULL` and to the start of frames. -/
theorem Framed.setRead (h : Framed q w) {pRead : Fin queueUseMax → Option ℕ}
    (hr : ∀ i r, pRead i = some r → q.pRead i = some r ∨
      ∃ fs, RawUnread q.dataBuff q.dataBuffSize w r fs) :
    Framed { q with pRead := pRead } w := by
  refine ⟨h.enabled, h.pWrite, h.len, h.w_le, h.w_lt, fun i r hi => ?_⟩
  rcases hr i r hi with hold | hnew
  · exact h.readers i r hold
  · exact hnew

theorem Framed.regist {rc : ℤ} (h : Framed q w) (hs : mediaQueueRegistReadHandle q = (rc, q')) :
    Framed q' w := by
  rw [mediaQueueRegistReadHandle, if_neg (by simp [h.enabled])] at hs
  split at hs
  · next j _ =>
    obtain rfl := congrArg Prod.snd hs
    refine h.setRead fun i r hi => ?_
    by_cases hij : i = j
    · subst hij
      rw [Function.update_self, h.pWrite, Option.some.injEq] at hi
      exact Or.inr ⟨[], hi ▸ Blocks.nil h.len h.w_le⟩
    · rw [Function.update_of_ne hij] at hi
      exact Or.inl hi
  · obtain rfl := congrArg Prod.snd hs
    exact h

theorem Framed.read {bufflen : ℤ} {data : Option (List UInt8)} (h : Framed q w)
    (hs : readData i q bufflen = .ok (data, q')) : Framed q' w := by
  cases hr : q.pRead i with
  | none =>
    simp only [readData, hr] at hs
    rw [← (Prod.mk.inj (Except.ok.inj hs)).2]
    exact h
  | some r =>
    obtain ⟨fs, hun⟩ := h.readers i r hr
    have hmoved : ∀ f gs, fs = f :: gs → Framed { q with
        pRead := Function.update q.pRead i (some (ringAdvance q.dataBuffSize r f.data.length)) } w := by
      rintro f gs rfl
      refine h.setRead fun k p hk => ?_
      by_cases hki : k = i
      · subst hki
        rw [Function.update_self, Option.some.injEq] at hk
        exact Or.inr ⟨gs, hk ▸ hun.tail f.size_pos⟩
      · rw [Function.update_of_ne hki] at hk
        exact Or.inl hk
    cases fs with
    | nil =>
      rw [hun.readData_nil h.enabled h.pWrite hr] at hs
      rw [← (Prod.mk.inj (Except.ok.inj hs)).2]
      exact h
    | cons f gs =>
      rw [hun.readData_cons h.enabled h.pWrite hr f.whole] at hs
      split at hs <;> split at hs <;> rw [← (Prod.mk.inj (Except.ok.inj hs)).2]
      · exact hmoved f gs rfl
      · exact h
      · exact h
      · exact h

/-! ### Balancing -/

/-- What `FindNextIframe` finds, if it finds something, is the start of a later frame. -/
theorem RawUnread.found {p : ℕ} (h : RawUnread buff size w r fs)
    (hf : findNextIframe w buff size (size + 1) r = .ok (some p)) :
    ∃ s, RawUnread buff size w p s ∧ 0 < p := by
  rw [findNextIframe_raw h (Nat.lt_succ_of_le (h.length_le RawFrame.whole))] at hf
  split at hf
  · obtain ⟨s, hs, rfl⟩ := Option.map_eq_some_iff.1 (Except.ok.inj hf)
    obtain ⟨pre, hpre, rfl, -⟩ := nextKey_suffix hs
    rw [totalSize_append, Nat.add_sub_cancel]
    exact ⟨s, h.drop RawFrame.size_pos, h.advance_pos RawFrame.whole hpre⟩
  · nomatch hf

/-- A reader that is moved ends at the start of a frame from which on there is more than room for the
    write. -/
theorem RawUnread.move {fuel len p : ℕ} (h : RawUnread buff size w r fs) (hlen : len ≤ size)
    (hm : moveReadPoint w len buff size fuel r = .ok p) :
    ∃ s, RawUnread buff size w p s ∧ totalSize (itemSize RawFrame.data) s + len < size := by
  induction fuel generalizing r fs with
  | zero => cases hm
  | succ fuel ih =>
    rw [moveReadPoint] at hm
    obtain ⟨found, hfound, hm⟩ := bind_eq_ok_iff.1 hm
    cases found with
    | none => cases hm
    | some pR =>
      obtain ⟨s, hs, hpos⟩ := h.found hfound
      simp only at hm
      split at hm
      · exact ih hs hm
      · next hway =>
        obtain rfl := Except.ok.inj hm
        rw [inTheWay_iff hpos hs.r_le hlen, hs.dist] at hway
        exact ⟨s, hs, by omega⟩

theorem RawUnread.contiguous {len : ℕ} {p : Option ℕ} (h : RawUnread buff size w r fs)
    (hlen : len ≤ size) (hc : w + len ≤ size)
    (hb : balanceOne (fun r => decide (r > w ∧ r < w + len))
      (moveReadPoint w len buff size (size + 1)) (some r) = .ok p) :
    ∃ r' s, p = some r' ∧ RawUnread buff size w r' s
      ∧ totalSize (itemSize RawFrame.data) s + len ≤ size := by
  rw [balanceOne] at hb
  split at hb
  · obtain ⟨r', hm, rfl⟩ := map_eq_ok_iff.1 hb
    obtain ⟨s, hs, hroom⟩ := h.move hlen hm
    exact ⟨r', s, rfl, hs, hroom.le⟩
  · next hguard =>
    have hd := h.dist
    have hdist := ringDist_cases size r w
    have hr := h.r_le
    rw [decide_eq_true_iff] at hguard
    exact ⟨r, fs, (Except.ok.inj hb).symm, h, by omega⟩

theorem RawUnread.wrapped {len : ℕ} {p : Option ℕ} (h : RawUnread buff size w r fs)
    (hw : w ≤ size) (hlen : len ≤ size) (hc : ¬ w + len ≤ size)
    (hb : (balanceOne (fun r => decide (r > w ∧ r ≤ size))
        (moveReadPoint w len buff size (size + 1)) (some r)).bind
      (balanceOne (fun r => decide (r ≤ len - (size - w)))
        (moveReadPoint w len buff size (size + 1))) = .ok p) :
    ∃ r' s, p = some r' ∧ RawUnread buff size w r' s
      ∧ totalSize (itemSize RawFrame.data) s + len ≤ size := by
  obtain ⟨mid, h1, h2⟩ := bind_eq_ok_iff.1 hb
  -- after the first pass the reader still stands at the start of a frame
  have hmid : ∃ r₁ s, mid = some r₁ ∧ RawUnread buff size w r₁ s
      ∧ (totalSize (itemSize RawFrame.data) s + len ≤ size ∨ ¬ r₁ > w) := by
    rw [balanceOne] at h1
    split at h1
    · obtain ⟨r', hm, rfl⟩ := map_eq_ok_iff.1 h1
      obtain ⟨s, hs, hroom⟩ := h.move hlen hm
      exact ⟨r', s, rfl, hs, Or.inl hroom.le⟩
    · next hguard =>
      rw [decide_eq_true_iff] at hguard
      exact ⟨r, fs, (Except.ok.inj h1).symm, h, Or.inr fun hgt => hguard ⟨hgt, h.r_le⟩⟩
  obtain ⟨r₁, s, rfl, hs, hroom⟩ := hmid
  rw [balanceOne] at h2
  split at h2
  · obtain ⟨r', hm, rfl⟩ := map_eq_ok_iff.1 h2
    obtain ⟨t, ht, hroom⟩ := hs.move hlen hm
    exact ⟨r', t, rfl, ht, hroom.le⟩
  · next hguard =>
    have hd := hs.dist
    have hdist := ringDist_cases size r₁ w
    have hr := hs.r_le
    rw [decide_eq_true_iff] at hguard
    refine ⟨r₁, s, (Except.ok.inj h2).symm, hs, ?_⟩
    rcases hroom with hroom | hgt
    · exact hroom
    · omega

/-- What the loop over the read pointers did to each of them. -/
theorem balanceReaders_inv {guard : ℕ → Bool} {move : ℕ → Except Fault ℕ}
    {is : List (Fin queueUseMax)} {pRead pRead' : Fin queueUseMax → Option ℕ} (hnd : is.Nodup)
    (h : balanceReaders guard move is pRead = .ok pRead') (i : Fin queueUseMax) :
    (i ∈ is → balanceOne guard move (pRead i) = .ok (pRead' i))
      ∧ (i ∉ is → pRead' i = pRead i) := by
  induction is generalizing pRead with
  | nil =>
    rw [balanceReaders] at h
    exact ⟨fun hi => absurd hi List.not_mem_nil, fun _ => by rw [Except.ok.inj h]⟩
  | cons j is ih =>
    obtain ⟨hj, hnd⟩ := List.nodup_cons.1 hnd
    rw [balanceReaders_cons] at h
    obtain ⟨p, hp, h⟩ := bind_eq_ok_iff.1 h
    obtain ⟨hin, hout⟩ := ih hnd h
    by_cases hij : i = j
    · subst hij
      have hi := hout hj
      rw [Function.update_self] at hi
      exact ⟨fun _ => by rw [hi, hp], fun hi' => absurd List.mem_cons_self hi'⟩
    · rw [Function.update_of_ne hij] at hin hout
      exact ⟨fun hi => hin ((List.mem_cons.1 hi).resolve_left hij),
        fun hi => hout fun hi' => hi (List.mem_cons_of_mem _ hi')⟩

theorem balanceOne_none {guard : ℕ → Bool} {move : ℕ → Except Fault ℕ} {p : Option ℕ}
    (h : balanceOne guard move none = .ok p) : p = none :=
  (Except.ok.inj h).symm

/-- After balancing, every reader stands at the start of a frame from which on there is room. -/
theorem Framed.balance {len : ℕ} {pRead' : Fin queueUseMax → Option ℕ} (h : Framed q w)
    (hlen : len ≤ q.dataBuffSize) (hb : balanceAll q w len = .ok pRead') {r' : ℕ}
    (hi : pRead' i = some r') :
    ∃ s, RawUnread q.dataBuff q.dataBuffSize w r' s
      ∧ totalSize (itemSize RawFrame.data) s + len ≤ q.dataBuffSize := by
  have hmem : i ∈ List.finRange queueUseMax := List.mem_finRange i
  have hnd := List.nodup_finRange queueUseMax
  rw [balanceAll] at hb
  split at hb
  · next hc =>
    have hone := (balanceReaders_inv hnd hb i).1 hmem
    cases hr : q.pRead i with
    | none =>
      rw [hr] at hone
      exact absurd (hi.symm.trans (balanceOne_none hone)) (by simp)
    | some r =>
      obtain ⟨fs, hun⟩ := h.readers i r hr
      rw [hr] at hone
      obtain ⟨r'', s, hp, hs⟩ := hun.contiguous hlen hc hone
      obtain rfl := Option.some.inj (hi.symm.trans hp)
      exact ⟨s, hs⟩
  · next hc =>
    obtain ⟨mid, hb1, hb2⟩ := bind_eq_ok_iff.1 hb
    have hfirst := (balanceReaders_inv hnd hb1 i).1 hmem
    have hsecond := (balanceReaders_inv hnd hb2 i).1 hmem
    cases hr : q.pRead i with
    | none =>
      rw [hr] at hfirst
      rw [balanceOne_none hfirst] at hsecond
      exact absurd (hi.symm.trans (balanceOne_none hsecond)) (by simp)
    | some r =>
      obtain ⟨fs, hun⟩ := h.readers i r hr
      rw [hr] at hfirst
      obtain ⟨r'', s, hp, hs⟩ := hun.wrapped h.w_le hlen hc (bind_eq_ok_iff.2 ⟨_, hfirst, hsecond⟩)
      obtain rfl := Option.some.inj (hi.symm.trans hp)
      exact ⟨s, hs⟩

theorem Framed.write {rc : ℤ} (h : Framed q w) (hf : itemSize RawFrame.data f ≤ q.dataBuffSize)
    (hs : writeData q f.data = .ok (rc, q')) :
    Framed q' ((w + itemSize RawFrame.data f) % q.dataBuffSize) := by
  have hpos := f.size_pos
  have hmod : (w + itemSize RawFrame.data f) % q.dataBuffSize < q.dataBuffSize :=
    Nat.mod_lt _ (by omega)
  have hsize : f.data.length = itemSize RawFrame.data f := rfl
  have hlen := h.len
  have hw := h.w_le
  rw [writeData_balances h.enabled h.pWrite h.len h.w_le] at hs
  obtain ⟨pRead', hb, hq⟩ := map_eq_ok_iff.1 hs
  rw [← (Prod.mk.inj hq).2]
  refine ⟨h.enabled, rfl, ?_, hmod.le, fun _ => hmod, fun i r' hi => ?_⟩
  · exact (length_ringWrite _ _ (by omega) (by omega)).trans hlen
  · obtain ⟨s, hun, hroom⟩ := h.balance hf hb hi
    exact ⟨_, hun.write (h.w_lt (by omega)) hroom⟩

theorem Framed.writeRaw {mediaType : MediaType} {info data : List UInt8} {r : ℤ × QueueHandle}
    (h : Framed q w) (hinfo : info.length = 24) (hmax : 32 + data.length ≤ videoRawMax)
    (hfit : 32 + data.length ≤ q.dataBuffSize)
    (hs : writeData q (rawFrame mediaType info data) = .ok r) : ∃ w', Framed r.2 w' := by
  rw [videoRawMax] at hmax
  have hsize : (rawFrame mediaType info data).length = 32 + data.length := length_rawFrame _ _ hinfo
  exact ⟨_, h.write (f := RawFrame.ofRaw mediaType info data hinfo (by omega))
    (hsize.trans_le hfit) hs⟩

theorem Framed.step {e : QueueCall} (h : Framed q w) (hs : RawStep q e q') :
    ∃ w', Framed q' w' := by
  cases hs with
  | regist hs => exact ⟨w, h.regist hs⟩
  | unRegist i hs =>
    have hi := i.isLt
    rw [clearReader, if_neg (by omega), dif_pos ⟨by omega, by omega⟩] at hs
    rw [← Except.ok.inj hs]
    refine ⟨w, h.setRead fun k r hk => Or.inl ?_⟩
    rw [Function.update_apply] at hk
    split at hk
    · cases hk
    · exact hk
  | video hfit hs =>
    rw [writeVideoRawData] at hs
    split at hs
    · cases hs
    · next hmax =>
      obtain ⟨r, hw, hr⟩ := map_eq_ok_iff.1 hs
      rw [← (Prod.mk.inj hr).2]
      exact h.writeRaw (length_videoInfo _) (Nat.le_of_not_lt hmax) hfit hw
  | audio hfit hs =>
    rw [writeAudioRawData] at hs
    split at hs
    · cases hs
    · next hmax =>
      obtain ⟨r, hw, hr⟩ := map_eq_ok_iff.1 hs
      rw [← (Prod.mk.inj hr).2]
      refine h.writeRaw (length_audioInfo _) ?_ hfit hw
      rw [audioRawMax, sizeofMeidaAudio] at hmax
      rw [videoRawMax]
      omega
  | read i bufflen hs => exact ⟨w, h.read hs⟩

/-- **Readers pass whole frames.** In every state that is reached, whatever the media types of the frames
    written, each reader has whole frames before it; it is given the first of them, and the search for
    the next key frame passes them by their lengths, exactly if all the frames up to that key frame
    are H264, H265 or G711A. -/
theorem framesAdvance_iff {N : ℕ} {tr : List QueueCall} (h : Run RawStep (createQueue N) tr q) :
    ∃ w, q.pWrite = some w ∧ ∀ i r, q.pRead i = some r →
      ∃ fs, RawUnread q.dataBuff q.dataBuffSize w r fs ∧
        (((∀ bufflen, ReadsFirst q i r fs bufflen) ∧ WalksFrames q w r fs)
          ↔ ∀ f ∈ walked fs, f.known = true) := by
  obtain ⟨w, hq⟩ := Run.stateInvariant (fun q => ∃ w, Framed q w) ⟨0, framed_createQueue N⟩
    (fun _ _ _ ⟨_, hI⟩ hs => hI.step hs) h
  refine ⟨w, hq.pWrite, fun i r hr => ?_⟩
  obtain ⟨fs, hun⟩ := hq.readers i r hr
  refine ⟨fs, hun, ?_⟩
  rw [readsFirst_iff hq.enabled hq.pWrite hr hun, walksFrames_iff hun]
  -- the first frame is among those the walk passes
  refine and_iff_right_of_imp fun hall f hf => hall f ?_
  cases fs with
  | nil => exact absurd hf (by simp)
  | cons g gs =>
    rw [List.head?_cons, Option.mem_some_iff] at hf
    exact hf ▸ List.mem_cons_self

/-- A registered reader, and an I frame and a G711A frame for it. -/
theorem framesAdvance_two_frames :
    ∃ q tr, Run RawStep (createQueue 96) tr q ∧ q.pRead 0 = some 0 ∧
      ∃ w, q.pWrite = some w ∧ ∀ i r, q.pRead i = some r →
        ∃ fs, RawUnread q.dataBuff q.dataBuffSize w r fs ∧
          (((∀ bufflen, ReadsFirst q i r fs bufflen) ∧ WalksFrames q w r fs)
            ↔ ∀ f ∈ walked fs, f.known = true) := by
  have h := (Run.nil : Run RawStep (createQueue 96) [] _)
    |>.snoc (.regist rfl)
    |>.snoc (@RawStep.video _ _ [] ⟨25, 0, FrameType.i.code, 0, 640, 480, 512, 0, 0⟩ .h264 _
      (by decide) rfl)
    |>.snoc (@RawStep.audio _ _ [1] ⟨8000, 1, 16, 1, 0, 0⟩ .g711a _ (by decide) rfl)
  exact ⟨_, _, h, rfl, framesAdvance_iff h⟩

/-- An AAC frame is never consumed: the reader is told of success, is given no byte, and stays where it
    is. -/
theorem aac_frame_stays :
    ∃ q tr, Run RawStep (createQueue 96) tr q ∧ q.pRead 0 = some 0 ∧ q.pWrite = some 33 ∧
      (readData 0 q 64).map (fun r => (r.1, r.2.pRead 0)) = .ok (some [], some 0) := by
  have h := (Run.nil : Run RawStep (createQueue 96) [] _)
    |>.snoc (.regist rfl)
    |>.snoc (@RawStep.audio _ _ [1] ⟨8000, 1, 16, 1, 0, 0⟩ .aac _ (by decide) rfl)
  exact ⟨_, _, h, rfl, rfl, rfl⟩

end SmartPlat.MediaQueue
