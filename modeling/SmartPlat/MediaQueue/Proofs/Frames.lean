import SmartPlat.Lib.ReaderLog
import SmartPlat.MediaQueue.Queue

set_option autoImplicit false

/-! # Media queue: items and frames in the ring

Between a read pointer and the write pointer stand the bytes of consecutive items, of whatever kind
(`Blocks`). What is copied out of them, where the next item begins and what a write behind them does
depend only on how long they are. -/

namespace SmartPlat.MediaQueue

open SmartPlat.Lib

variable {α : Type} {data : α → List UInt8}

/-- The length of an item in the ring. -/
abbrev itemSize (data : α → List UInt8) (x : α) : ℕ := (data x).length

/-- The bytes from `r` to the write pointer `w` are exactly the items `xs`, whole and in order. -/
structure Blocks (data : α → List UInt8) (buff : List UInt8) (size w r : ℕ) (xs : List α) :
    Prop where
  len : buff.length = size
  w_le : w ≤ size
  r_le : r ≤ size
  bytes : ringSlice buff r (ringDist size r w) = xs.flatMap data

variable {buff : List UInt8} {size w r : ℕ} {x : α} {xs : List α}

theorem length_flatMap_data (xs : List α) :
    (xs.flatMap data).length = totalSize (itemSize data) xs := by
  rw [List.length_flatMap]
  rfl

theorem ringDist_le {cap r w : ℕ} (hr : r ≤ cap) (hw : w ≤ cap) : ringDist cap r w ≤ cap := by
  have := ringDist_cases cap r w
  omega

/-- A reader at the write pointer has nothing before it. -/
theorem Blocks.nil (hlen : buff.length = size) (hw : w ≤ size) : Blocks data buff size w w [] where
  len := hlen
  w_le := hw
  r_le := hw
  bytes := by rw [ringDist_self, ringSlice_zero, List.flatMap_nil]

theorem Blocks.dist (h : Blocks data buff size w r xs) :
    ringDist size r w = totalSize (itemSize data) xs := by
  have hle := ringDist_le h.r_le h.w_le
  rw [← length_flatMap_data, ← h.bytes, length_ringSlice buff r (by rw [h.len]; exact hle)]

/-- The reader's next bytes are its first item's. -/
theorem Blocks.slice (h : Blocks data buff size w r (x :: xs)) {n : ℕ} (hn : n ≤ itemSize data x) :
    ringSlice buff r n = (data x).take n := by
  have hd := h.dist
  rw [totalSize_cons] at hd
  rw [← take_ringSlice buff (n := ringDist size r w) (by omega), h.bytes, List.flatMap_cons,
    List.take_append_of_le_length hn]

theorem Blocks.tail (h : Blocks data buff size w r (x :: xs)) (hpos : 0 < itemSize data x) :
    Blocks data buff size w (ringAdvance size r (itemSize data x)) xs := by
  have hd := h.dist
  rw [totalSize_cons] at hd
  have hr := h.r_le
  have hw := h.w_le
  have hle := ringDist_le hr hw
  have hadv : ringDist size (ringAdvance size r (itemSize data x)) w
      = ringDist size r w - itemSize data x := by
    have h1 := ringDist_cases size r w
    have h2 := ringAdvance_cases size r (itemSize data x)
    have h3 := ringDist_cases size (ringAdvance size r (itemSize data x)) w
    omega
  refine ⟨h.len, h.w_le, ringAdvance_le h.r_le (by omega), ?_⟩
  have hdrop := drop_ringSlice buff (show r ≤ buff.length by rw [h.len]; exact hr)
    (show itemSize data x ≤ ringDist size r w by omega) (by rw [h.len]; exact hle)
  rw [h.bytes, List.flatMap_cons, h.len] at hdrop
  rw [hadv, ← hdrop]
  exact List.drop_left' rfl

theorem Blocks.drop {pre s : List α} (h : Blocks data buff size w r (pre ++ s))
    (hpos : ∀ x, 0 < itemSize data x) :
    Blocks data buff size w (ringAdvance size r (totalSize (itemSize data) pre)) s := by
  induction pre generalizing r with
  | nil => rw [totalSize_nil, ringAdvance_zero h.r_le]; exact h
  | cons x pre ih =>
      have hd := h.dist
      have hle := ringDist_le h.r_le h.w_le
      rw [List.cons_append, totalSize_cons, totalSize_append] at hd
      rw [totalSize_cons, ← ringAdvance_add h.r_le (by omega)]
      exact ih (Blocks.tail h (hpos x))

/-- The bytes `CopyDataOnQueue` takes to be readable. -/
theorem Blocks.rwlen (h : Blocks data buff size w r xs) :
    (if (w : ℤ) - r < 0 then (size : ℤ) + (w - r) else w - r)
      = totalSize (itemSize data) xs := by
  have hd := h.dist
  have := ringDist_cases size r w
  have := h.r_le
  split <;> omega

theorem Blocks.copy_some (h : Blocks data buff size w r xs) (n : ℕ) (bufflen : ℤ)
    (hn : n ≤ totalSize (itemSize data) xs) (hb : (n : ℤ) ≤ bufflen) :
    copyDataOnQueue buff size w r n bufflen = .ok (some (ringSlice buff r n)) := by
  have hr := h.r_le
  have hd := h.dist
  have hslice := ringSlice_eq_copies buff r n
  rw [h.len] at hslice
  simp only [copyDataOnQueue, h.rwlen]
  rw [if_neg (by omega), if_neg (by omega), if_neg (by omega), hslice]
  simp only [Int.toNat_natCast, ge_iff_le]
  split <;> rfl

theorem Blocks.copy_none (h : Blocks data buff size w r xs) (n bufflen : ℤ)
    (hn : totalSize (itemSize data) xs < n) :
    copyDataOnQueue buff size w r n bufflen = .ok none := by
  simp only [copyDataOnQueue, h.rwlen]
  rw [if_pos (c := (totalSize (itemSize data) xs : ℤ) < n) hn, ite_self]

/-- The written item comes behind what was there, unless it closes the ring. -/
theorem Blocks.write (h : Blocks data buff size w r xs) (hw : w < size)
    (hroom : totalSize (itemSize data) xs + itemSize data x ≤ size) :
    Blocks data (ringWrite buff w (data x)) size ((w + itemSize data x) % size) r
      (if totalSize (itemSize data) xs + itemSize data x = size then [] else xs ++ [x]) := by
  have hd := h.dist
  have hlen := h.len
  have hsize : (data x).length = itemSize data x := rfl
  have hmod := ringDist_mod h.r_le hw (n := itemSize data x) (by omega) (by omega)
  have hbytes := ringSlice_ringWrite buff (data x) (r := r) (w := w) (by rw [hlen]; exact h.r_le)
    (by omega) (by rw [hlen, hd]; omega)
  refine ⟨?_, (Nat.mod_lt _ (by omega)).le, h.r_le, ?_⟩
  · rw [length_ringWrite _ _ (by omega) (by omega), hlen]
  · rw [hmod, hd]
    split
    · exact ringSlice_zero _ _
    · rw [hlen, h.bytes, hd, hsize] at hbytes
      rw [hbytes, List.flatMap_append, List.flatMap_singleton]

/-! ## Reading frames off the ring

The items are whole frames, of any media type. What the primitives of `Queue.lean` read of a frame is in
its first 32 bytes; they know the length of H264, H265 and G711A frames only (`lengthKnown`). -/

/-- A header with its sync bytes, and the payload whose length it gives. -/
structure WholeFrame (b : List UInt8) : Prop where
  synced : (MeidaHead.ofBytes b).synced = true
  headed : sizeofMeidaVideo ≤ b.length
  datalen : int32At b 28 = b.length - 32
  fits : b.length < 2 ^ 31

/-- The media type is H264, H265 or G711A. -/
def lengthKnown (b : List UInt8) : Bool := (MeidaHead.ofBytes b).isVideo || (MeidaHead.ofBytes b).isAudio

/-- A non-P video frame. -/
def keyFrame (b : List UInt8) : Bool :=
  (MeidaHead.ofBytes b).isVideo && meidaVideoFrametype b != FrameType.p.code

theorem MeidaHead.ofBytes_take (b : List UInt8) {n : ℕ} (hn : 4 ≤ n) :
    MeidaHead.ofBytes (b.take n) = MeidaHead.ofBytes b := by
  simp only [MeidaHead.ofBytes, byteAt_take (b := b) (show 0 < n by omega),
    byteAt_take (b := b) (show 1 < n by omega), byteAt_take (b := b) (show 2 < n by omega),
    byteAt_take (b := b) (show 3 < n by omega)]

variable {α : Type} {data : α → List UInt8} {buff : List UInt8} {size w r : ℕ} {x : α} {xs : List α}

theorem WholeFrame.size_ge (hx : WholeFrame (data x)) : 32 ≤ itemSize data x := hx.headed

theorem WholeFrame.size_pos (hx : WholeFrame (data x)) : 0 < itemSize data x :=
  lt_of_lt_of_le (by decide) hx.headed

theorem copyDataOnQueue_small {n bufflen : ℤ} (hn : bufflen < n) :
    copyDataOnQueue buff size w r n bufflen = .ok none := by
  simp only [copyDataOnQueue]
  rw [if_pos (by omega)]

theorem nextPointer_eq (size r n : ℕ) :
    nextPointer size r n = .ok (ringAdvance size r n) := by
  have h := ringAdvance_cases size r n
  unfold nextPointer
  rw [if_neg (by omega)]
  split <;> congr 1 <;> omega

/-! ## Headers -/

theorem Blocks.head_cons (h : Blocks data buff size w r (x :: xs)) (hx : WholeFrame (data x)) :
    readMeidaHead buff size w r = .ok (some (MeidaHead.ofBytes (data x))) := by
  have hs := hx.size_ge
  have hcopy := h.copy_some sizeofMeidaHead 512
    (by rw [totalSize_cons, sizeofMeidaHead]; omega) (by decide)
  rw [readMeidaHead, hcopy, h.slice (n := sizeofMeidaHead) (by rw [sizeofMeidaHead]; omega)]
  simp only [Except.map, Option.map_some,
    MeidaHead.ofBytes_take (data x) (n := sizeofMeidaHead) (by decide), Option.filter_some,
    hx.synced, if_true]

theorem Blocks.head_nil (h : Blocks data buff size w r []) :
    readMeidaHead buff size w r = .ok none := by
  rw [readMeidaHead, h.copy_none sizeofMeidaHead 512 (by rw [totalSize_nil]; decide)]
  rfl

/-- The full header of the first frame, for video and audio alike. -/
theorem Blocks.header (h : Blocks data buff size w r (x :: xs)) (hx : WholeFrame (data x)) :
    copyDataOnQueue buff size w r (32 : ℕ) 512 = .ok (some ((data x).take 32)) := by
  have hs := hx.size_ge
  rw [h.copy_some 32 512 (by rw [totalSize_cons]; omega) (by decide), h.slice hs]

/-- The length of the first frame, for the types the readers know. -/
theorem Blocks.frameLen (other : Except Fault ℤ) (h : Blocks data buff size w r (x :: xs))
    (hx : WholeFrame (data x)) : readFrameLen other buff size w r =
      if lengthKnown (data x) then .ok (some (itemSize data x : ℤ)) else other.map some := by
  have hlen : addInt32 (int32At ((data x).take 32) 28) (32 : ℕ) = itemSize data x := by
    have h31 := hx.fits
    have hs := hx.headed
    rw [sizeofMeidaVideo] at hs
    rw [int32At_take (by omega), hx.datalen, addInt32_of_lt (by omega) (by omega), itemSize]
    omega
  simp only [readFrameLen, h.head_cons hx, sizeofMeidaVideo, sizeofMeidaAudio, h.header hx,
    Except.bind, Except.map, Option.map_some, meidaVideoDatalen, meidaAudioDatalen, hlen]
  by_cases hv : (MeidaHead.ofBytes (data x)).isVideo = true
  · rw [if_pos hv, if_pos (by simp [lengthKnown, hv])]
  · by_cases ha : (MeidaHead.ofBytes (data x)).isAudio = true
    · rw [if_neg hv, if_pos ha, if_pos (by simp [lengthKnown, ha])]
    · rw [if_neg hv, if_neg ha, if_neg (by simp [lengthKnown, hv, ha])]

theorem Blocks.frameLen_nil (other : Except Fault ℤ) (h : Blocks data buff size w r []) :
    readFrameLen other buff size w r = .ok none := by
  rw [readFrameLen, h.head_nil]
  rfl

theorem Blocks.frametype (h : Blocks data buff size w r (x :: xs)) (hx : WholeFrame (data x)) :
    readFrametype buff size w r = .ok (some (meidaVideoFrametype (data x))) := by
  simp only [readFrametype, sizeofMeidaVideo, h.header hx, Except.map, Option.map_some,
    meidaVideoFrametype, byteAt_take (b := data x) (show 6 < 32 by omega)]

/-! ## ReadData -/

/-- `ReadData` gives the first frame if its length is known and the buffer takes it; of a frame of another
    type it gives no byte, and stays where it is. -/
theorem Blocks.readData_cons {q : QueueHandle} {i : Fin queueUseMax} (henabled : q.enabled = true)
    (hw : q.pWrite = some w) (hr : q.pRead i = some r)
    (h : Blocks data q.dataBuff q.dataBuffSize w r (x :: xs)) (hx : WholeFrame (data x))
    (bufflen : ℤ) : readData i q bufflen =
      if lengthKnown (data x) then
        if (itemSize data x : ℤ) ≤ bufflen then
          .ok (some (data x), { q with
            pRead := Function.update q.pRead i
              (some (ringAdvance q.dataBuffSize r (itemSize data x))) })
        else .ok (none, q)
      else if 0 ≤ bufflen then .ok (some [], q)
      else .ok (none, q) := by
  have hself : (⟨true, some w, Function.update q.pRead i (some r), q.dataBuff, q.dataBuffSize⟩ :
      QueueHandle) = q := by
    rw [← henabled, ← hw, ← hr, Function.update_eq_self]
  simp only [readData, hr, henabled, hw, Bool.true_eq_false, if_false, h.frameLen _ hx]
  by_cases hk : lengthKnown (data x) = true
  · simp only [if_pos hk, Except.bind]
    by_cases hfit : (itemSize data x : ℤ) ≤ bufflen
    · have hcopy := h.copy_some (itemSize data x) bufflen (by rw [totalSize_cons]; omega) hfit
      rw [h.slice le_rfl, List.take_length] at hcopy
      rw [if_pos hfit, hcopy]
      simp only [nextPointer_eq, Except.map]
    · rw [if_neg hfit, copyDataOnQueue_small (by omega)]
  · -- the length stays 0: nothing is copied, and the pointer stays where it is
    simp only [if_neg hk, Except.map, Except.bind]
    by_cases hfit : 0 ≤ bufflen
    · have hcopy : copyDataOnQueue q.dataBuff q.dataBuffSize w r 0 bufflen = .ok (some []) := by
        have := h.copy_some 0 bufflen (Nat.zero_le _) hfit
        rwa [ringSlice_zero] at this
      have hnext : nextPointer q.dataBuffSize r 0 = .ok r := by
        have := nextPointer_eq q.dataBuffSize r 0
        rwa [ringAdvance_zero h.r_le] at this
      simp only [if_pos hfit, hcopy, hnext, hself]
    · rw [if_neg hfit, copyDataOnQueue_small (by omega)]

theorem Blocks.readData_nil {q : QueueHandle} {i : Fin queueUseMax} (henabled : q.enabled = true)
    (hw : q.pWrite = some w) (hr : q.pRead i = some r)
    (h : Blocks data q.dataBuff q.dataBuffSize w r []) (bufflen : ℤ) :
    readData i q bufflen = .ok (none, q) := by
  simp only [readData, hr, henabled, hw, Bool.true_eq_false, if_false, h.frameLen_nil, Except.bind]

/-! ## FindNextIframe -/

/-- The frames that the walk from the first one to the next key frame passes. -/
def passed (isKey : α → Bool) : List α → List α
  | [] => []
  | x :: xs => x :: xs.takeWhile fun y => !isKey y

theorem passed_cons_of_not {isKey : α → Bool} {y : α} {ys : List α} (hy : isKey y = false) :
    passed isKey (x :: y :: ys) = x :: passed isKey (y :: ys) := by
  simp only [passed, List.takeWhile_cons, hy, Bool.not_false, if_true]

/-- The offset of the next key frame, seen from the first frame and from the one behind it. -/
theorem Blocks.nextKey_offset {isKey : α → Bool} (h : Blocks data buff size w r (x :: xs)) :
    ((nextKey isKey xs).map fun s => ringAdvance size (ringAdvance size r (itemSize data x))
        (totalSize (itemSize data) xs - totalSize (itemSize data) s)) =
      (nextKey isKey xs).map fun s => ringAdvance size r
        (totalSize (itemSize data) (x :: xs) - totalSize (itemSize data) s) := by
  cases hs : nextKey isKey xs with
  | none => rfl
  | some s =>
      obtain ⟨pre, -, hpre, -⟩ := nextKey_suffix hs
      have hsum := congrArg (totalSize (itemSize data)) hpre
      have hd := h.dist
      have hle := ringDist_le h.r_le h.w_le
      rw [totalSize_append] at hsum
      rw [totalSize_cons] at hd
      simp only [Option.map_some]
      rw [ringAdvance_add h.r_le (by omega), totalSize_cons (itemSize data) x]
      congr 2
      omega

/-- **`FindNextIframe` finds the next key frame behind the first frame**, or nothing; it goes wrong at the
    first frame of a type whose length it does not know. -/
theorem Blocks.findNextIframe_eq {fuel : ℕ} (hall : ∀ x, WholeFrame (data x))
    (h : Blocks data buff size w r xs) (hfuel : xs.length < fuel) :
    findNextIframe w buff size fuel r =
      if ∀ x ∈ passed (fun x => keyFrame (data x)) xs, lengthKnown (data x) = true then
        .ok ((nextKey (fun x => keyFrame (data x)) xs).map fun s =>
          ringAdvance size r (totalSize (itemSize data) xs - totalSize (itemSize data) s))
      else .error .badAccess := by
  induction xs generalizing fuel r with
  | nil =>
      obtain ⟨fuel, rfl⟩ := Nat.exists_eq_add_of_lt hfuel
      rw [findNextIframe, h.frameLen_nil, if_pos (by simp [passed])]
      rfl
  | cons x xs ih =>
      obtain ⟨fuel, rfl⟩ : ∃ k, fuel = k + 1 := ⟨fuel - 1, by omega⟩
      have ht := h.tail (hall x).size_pos
      by_cases hk : lengthKnown (data x) = true
      · -- one turn of the loop lands on the next frame; what happens there depends on `xs`
        simp only [findNextIframe, h.frameLen _ (hall x), if_pos hk, nextPointer_eq, Except.bind]
        cases xs with
        | nil =>
            simp only [ht.head_nil, nextKey, headKey]
            rw [if_pos (by simp [passed, hk])]
            rfl
        | cons y ys =>
            simp only [ht.head_cons (hall y), ht.frametype (hall y)]
            by_cases hy : keyFrame (data y) = true
            · have hvp := hy
              rw [keyFrame, Bool.and_eq_true] at hvp
              rw [if_pos hvp.1, if_pos hvp.2, if_pos (by simp [passed, hy, hk])]
              simp only [nextKey, headKey, hy, if_true, Option.map_some, totalSize_cons,
                Nat.add_sub_cancel]
            · have hnot : headKey (fun x => keyFrame (data x)) (y :: ys) = false :=
                Bool.not_eq_true _ ▸ hy
              have hpassed : (∀ z ∈ passed (fun x => keyFrame (data x)) (x :: y :: ys),
                  lengthKnown (data z) = true) ↔
                  ∀ z ∈ passed (fun x => keyFrame (data x)) (y :: ys),
                    lengthKnown (data z) = true := by
                rw [passed_cons_of_not (by exact hnot), List.forall_mem_cons, and_iff_right hk]
              have hgo := ih ht (by simpa using hfuel)
              rw [h.nextKey_offset] at hgo
              rw [nextKey_cons_of_not hnot, if_congr hpassed rfl rfl, ← hgo]
              -- a P frame, or no video frame: the walk goes on from it
              rw [keyFrame, Bool.and_eq_true, not_and] at hy
              split
              · next hv => rw [if_neg (hy hv)]
              · rfl
      · rw [findNextIframe, h.frameLen _ (hall x), if_neg hk, if_neg]
        · rfl
        · exact fun hknown => hk (hknown x List.mem_cons_self)

theorem length_le_totalSize (hall : ∀ x, WholeFrame (data x)) (xs : List α) :
    xs.length ≤ totalSize (itemSize data) xs := by
  induction xs with
  | nil => exact Nat.le_refl _
  | cons x xs ih =>
      have := (hall x).size_pos
      rw [List.length_cons, totalSize_cons]
      omega

theorem Blocks.length_le (h : Blocks data buff size w r xs) (hall : ∀ x, WholeFrame (data x)) :
    xs.length ≤ size :=
  (length_le_totalSize hall xs).trans (h.dist ▸ ringDist_le h.r_le h.w_le)

/-! ## Room for a write -/

/-- A frame start strictly between reader and writer is in the way exactly when the unread bytes from
    it on and the new frame do not fit the ring with a byte to spare; both write branches agree. -/
theorem inTheWay_iff {len p : ℕ} (hp0 : 0 < p) (hp : p ≤ size) (hlen : len ≤ size) :
    inTheWay w len size p = true ↔ size ≤ ringDist size p w + len := by
  have h := ringDist_cases size p w
  unfold inTheWay
  split
  · rw [decide_eq_true_iff]; omega
  · simp only [Bool.or_eq_true, decide_eq_true_iff]; omega

section

variable {pre s : List α} (h : Blocks data buff size w r (pre ++ s)) (hall : ∀ x, WholeFrame (data x))
  (hpre : pre ≠ [])

include h hall hpre

/-- Behind some items a reader does not stand at the first byte of the buffer. -/
theorem Blocks.advance_pos : 0 < ringAdvance size r (totalSize (itemSize data) pre) := by
  have hd := h.dist
  have hle := ringDist_le h.r_le h.w_le
  have hitems := length_le_totalSize hall pre
  have hpos := List.length_pos_iff.2 hpre
  have hcases := ringAdvance_cases size r (totalSize (itemSize data) pre)
  rw [totalSize_append] at hd
  omega

/-- Behind some items a reader is in the way exactly when the rest of them leaves no room. -/
theorem Blocks.inTheWay_iff {len : ℕ} (hlen : len ≤ size) :
    inTheWay w len size (ringAdvance size r (totalSize (itemSize data) pre)) = true ↔
      ¬ totalSize (itemSize data) s < size - len := by
  have hrest := h.drop fun x => (hall x).size_pos
  have hd := h.dist
  have hle := ringDist_le h.r_le h.w_le
  have hitems := length_le_totalSize hall pre
  have hpos := List.length_pos_iff.2 hpre
  rw [MediaQueue.inTheWay_iff (h.advance_pos hall hpre) hrest.r_le hlen, hrest.dist]
  rw [totalSize_append] at hd
  omega

end

/-! ## Walking along the unread frames

A read pointer is described by the frames from it to the write pointer (`Unread`), all of types the
readers know. Which frame `FindNextIframe` finds and where `MoveReadPoint` puts the pointer is told in
these terms. -/

section Unread

/-! ### Unread frames -/

/-- The bytes from `r` to the write pointer `w` are exactly the frames `fs`, whole and in order. -/
structure Unread (buff : List UInt8) (size w r : ℕ) (fs : List Frame) : Prop where
  len : buff.length = size
  w_le : w ≤ size
  r_le : r ≤ size
  bytes : ringSlice buff r (ringDist size r w) = frameBytes fs

variable {buff : List UInt8} {size w r : ℕ} {f : Frame} {fs : List Frame}

theorem Unread.blocks (h : Unread buff size w r fs) : Blocks Frame.data buff size w r fs :=
  ⟨h.len, h.w_le, h.r_le, h.bytes⟩

theorem Blocks.unread (h : Blocks Frame.data buff size w r fs) : Unread buff size w r fs :=
  ⟨h.len, h.w_le, h.r_le, h.bytes⟩

theorem Frame.whole (f : Frame) : WholeFrame f.data := ⟨f.synced, f.headed, f.datalen, f.fits⟩

theorem Frame.size_pos (f : Frame) : 0 < itemSize Frame.data f := f.whole.size_pos

theorem Unread.dist (h : Unread buff size w r fs) :
    ringDist size r w = totalSize Frame.size fs :=
  h.blocks.dist

/-- The reader's next bytes are its first unread frame's. -/
theorem Unread.slice (h : Unread buff size w r (f :: fs)) {n : ℕ} (hn : n ≤ f.size) :
    ringSlice buff r n = f.data.take n :=
  h.blocks.slice hn

theorem Unread.tail (h : Unread buff size w r (f :: fs)) :
    Unread buff size w (ringAdvance size r f.size) fs :=
  (h.blocks.tail f.size_pos).unread

theorem Unread.drop {pre s : List Frame} (h : Unread buff size w r (pre ++ s)) :
    Unread buff size w (ringAdvance size r (totalSize Frame.size pre)) s :=
  (h.blocks.drop Frame.size_pos).unread

/-! ### FindNextIframe -/

theorem Frame.lengthKnown (f : Frame) : lengthKnown f.data = true := by
  rw [MediaQueue.lengthKnown, Bool.or_eq_true]
  exact f.kind

/-- **`FindNextIframe` finds the next key frame behind the first unread one**, or nothing. -/
theorem findNextIframe_eq {fuel : ℕ} (h : Unread buff size w r fs) (hfuel : fs.length < fuel) :
    findNextIframe w buff size fuel r
      = .ok ((nextKey Frame.isKey fs).map fun s =>
          ringAdvance size r (totalSize Frame.size fs - totalSize Frame.size s)) := by
  rw [h.blocks.findNextIframe_eq Frame.whole hfuel, if_pos fun f _ => f.lengthKnown]
  rfl

/-! ### MoveReadPoint -/

theorem totalSize_pos {fs : List Frame} (h : fs ≠ []) : 0 < totalSize Frame.size fs := by
  cases fs with
  | nil => exact absurd rfl h
  | cons f fs =>
      have := f.size_ge
      rw [totalSize_cons]
      omega

/-- **`MoveReadPoint` resynchronises**: it lands on the first key frame behind the reader's current
    frame that leaves room for the write, and aborts when there is none. -/
theorem moveReadPoint_eq {fuel len : ℕ} (h : Unread buff size w r fs)
    (hlen : len ≤ size) (hfuel : fs.length < fuel) :
    moveReadPoint w len buff size fuel r
      = match resync Frame.size Frame.isKey (size - len) fs with
        | none => .error .assertFail
        | some s => .ok (ringAdvance size r (totalSize Frame.size fs - totalSize Frame.size s)) := by
  induction fuel generalizing r fs with
  | zero => omega
  | succ fuel ih =>
      have hd := h.dist
      have hle := ringDist_le h.r_le h.w_le
      have hbound : fs.length ≤ totalSize Frame.size fs := length_le_totalSize Frame.whole fs
      have hfind := findNextIframe_eq h (show fs.length < size + 1 by omega)
      rw [moveReadPoint, hfind, resync_eq_nextKey]
      cases hk : nextKey Frame.isKey fs with
      | none => rfl
      | some s =>
          obtain ⟨pre, hpre, rfl, -⟩ := nextKey_suffix hk
          have hs := h.drop
          have hway : inTheWay w len size (ringAdvance size r (totalSize Frame.size pre)) = true ↔
              ¬ totalSize Frame.size s < size - len :=
            h.blocks.inTheWay_iff Frame.whole hpre hlen
          have hlength : s.length < fuel := by
            have := List.length_pos_iff.2 hpre
            rw [List.length_append] at hfuel
            omega
          rw [totalSize_append] at hd
          simp only [Option.map_some, Option.bind_some, totalSize_append, Nat.add_sub_cancel,
            Except.bind]
          by_cases hfit : totalSize Frame.size s < size - len
          · rw [if_neg (mt hway.1 (not_not_intro hfit)), if_pos hfit]
            simp only [Nat.add_sub_cancel]
          · rw [if_pos (hway.2 hfit), if_neg hfit, ih hs hlength]
            cases hres : resync Frame.size Frame.isKey (size - len) s with
            | none => rfl
            | some t =>
                obtain ⟨mid, -, rfl, -⟩ := resync_spec hres
                rw [totalSize_append] at hd ⊢
                simp only [Nat.add_sub_cancel, ← Nat.add_assoc]
                rw [ringAdvance_add h.r_le (by omega)]

end Unread

end SmartPlat.MediaQueue
