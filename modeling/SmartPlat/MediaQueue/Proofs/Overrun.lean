import SmartPlat.MediaQueue.Proofs.Integrity

set_option autoImplicit false

/-! # Media queue: what a write does to readers that are behind

Three questions about one write in a state some run reached: does it return, which frames does a
reader lose, where does its pointer end up. All are answered by `landing`; here the answers are put
in terms of the frames before the writer's pointer and the cells the new frame is written over. -/

namespace SmartPlat.MediaQueue

open SmartPlat.Lib

variable {N : ℕ} {q q' : QueueHandle} {w : ℕ} {u : Fin queueUseMax → Option (List Frame)}
  {tr : List QueueEvent} {f : Frame} {i : Fin queueUseMax}

/-! ## The frames are determined by the bytes -/

/-- Frames are self-delimiting: the length field of the first one says where it ends. -/
theorem frameBytes_injective {fs gs : List Frame} (h : frameBytes fs = frameBytes gs) :
    fs = gs := by
  have hnil : ∀ (f : Frame) (fs : List Frame), frameBytes (f :: fs) ≠ [] := by
    intro f fs hnil
    have hlen := congrArg List.length hnil
    have hsize := f.size_ge
    rw [frameBytes_cons, List.length_append, List.length_nil] at hlen
    rw [Frame.size] at hsize
    omega
  induction fs generalizing gs with
  | nil =>
      cases gs with
      | nil => rfl
      | cons g gs => exact absurd h.symm (hnil g gs)
  | cons f fs ih =>
      cases gs with
      | nil => exact absurd h (hnil f fs)
      | cons g gs =>
          rw [frameBytes_cons, frameBytes_cons] at h
          have hf := f.headed
          have hg := g.headed
          rw [sizeofMeidaVideo] at hf hg
          have hfield : int32At f.data 28 = int32At g.data 28 := by
            rw [← int32At_append_left (b := frameBytes fs) (by omega), h,
              int32At_append_left (by omega)]
          rw [f.datalen, g.datalen] at hfield
          obtain ⟨hdata, htail⟩ := List.append_inj h (by omega)
          rw [Frame.ext_data hdata, ih htail]

/-- In a reached state, a reader's unread frames are the ones its bytes show. -/
theorem Holds.frames_eq {r : ℕ} {fs : List Frame} (h : Holds q w u) (hr : q.pRead i = some r)
    (hun : Unread q.dataBuff q.dataBuffSize w r fs) : u i = some fs := by
  obtain ⟨gs, hu, hun'⟩ := h.frames hr
  rw [hu, frameBytes_injective (hun'.bytes.symm.trans hun.bytes)]

theorem reached_holds (h : Run QueueStep (createQueue N) tr q) (hw : q.pWrite = some w) :
    q.dataBuffSize = N ∧ ∃ u, Holds q w u := by
  obtain ⟨u, -, hN, w', hq⟩ := queueRun_refines h
  obtain rfl := Option.some.inj (hw.symm.trans hq.pWrite)
  exact ⟨hN, u, hq⟩

/-! ## When a write returns -/

/-- Some key frame behind the reader's current frame has, with what follows it, room beside `len`
    new bytes: it starts beyond the bytes about to be written. -/
def Escapes (size len : ℕ) (fs : List Frame) : Prop :=
  ∃ pre x post, pre ≠ [] ∧ fs = pre ++ x :: post ∧ x.isKey = true ∧
    totalSize Frame.size (x :: post) + len < size

theorem landing_ne_none_iff {len : ℕ} {fs : List Frame} :
    landing N w len fs ≠ none ↔ (overruns N w len fs = true → Escapes N len fs) := by
  rw [landing]
  split
  · next hover =>
      rw [Option.ne_none_iff_isSome, resync_isSome_iff]
      constructor
      · rintro ⟨pre, x, post, hpre, hfs, hk, hlt⟩ -
        exact ⟨pre, x, post, hpre, hfs, hk, by omega⟩
      · intro h
        obtain ⟨pre, x, post, hpre, hfs, hk, hlt⟩ := h hover
        exact ⟨pre, x, post, hpre, hfs, hk, by omega⟩
  · next hover => simp [hover]

/-- Every reader the write runs over can escape. -/
def AllEscape (q : QueueHandle) (w len : ℕ) : Prop :=
  ∀ i r fs, q.pRead i = some r → Unread q.dataBuff q.dataBuffSize w r fs →
    overruns q.dataBuffSize w len fs = true → Escapes q.dataBuffSize len fs

theorem Holds.allEscape_iff {len : ℕ} (h : Holds q w u) :
    AllEscape q w len ↔ ∀ i fs, u i = some fs → landing q.dataBuffSize w len fs ≠ none := by
  constructor
  · intro hall i fs hu
    obtain ⟨r, hr, hun⟩ := h.reader hu
    exact landing_ne_none_iff.2 (hall i r fs hr hun)
  · intro hall i r fs hr hun
    exact landing_ne_none_iff.1 (hall i fs (h.frames_eq hr hun))

/-- **When the writer survives.** In a reached state, writing a frame that fits the queue returns,
    with every reader at the start of a frame or at the write pointer, exactly when every reader
    that is run over has a key frame to escape to; otherwise the server is aborted. -/
theorem writeReturns_iff (h : Run QueueStep (createQueue N) tr q) (hw : q.pWrite = some w)
    (hf : f.size ≤ N) :
    (∃ rc q', writeData q f.data = .ok (rc, q') ∧ ∃ w', q'.pWrite = some w' ∧
      ∀ i r, q'.pRead i = some r → ∃ fs, Unread q'.dataBuff q'.dataBuffSize w' r fs)
      ↔ AllEscape q w f.size := by
  obtain ⟨rfl, u, hq⟩ := reached_holds h hw
  rw [hq.allEscape_iff]
  constructor
  · rintro ⟨rc, q', hwrite, -⟩
    exact (landing_of_writeData hq hf hwrite).1
  · intro hland
    obtain ⟨hwrite, hq'⟩ := writeData_ok hq hf hland
    refine ⟨keyTrue, _, hwrite, _, hq'.pWrite, fun i r hr => ?_⟩
    obtain ⟨fs, -, hun⟩ := hq'.frames hr
    exact ⟨fs, hun⟩

theorem writeReturns_iff_two_frames :
    ∃ q tr, Run QueueStep (createQueue 80) tr q ∧
      written tr = [sampleVideo .p 0, sampleVideo .i 0] ∧
      ((∃ rc q', writeData q (sampleVideo .p 0).data = .ok (rc, q') ∧ ∃ w', q'.pWrite = some w' ∧
        ∀ i r, q'.pRead i = some r → ∃ fs, Unread q'.dataBuff q'.dataBuffSize w' r fs)
        ↔ AllEscape q 64 32) := by
  have h := (Run.nil : Run QueueStep (createQueue 80) [] _)
    |>.snoc (.regist (i := 0) rfl)
    |>.snoc (.write (f := sampleVideo .p 0) (by decide) rfl)
    |>.snoc (.write (f := sampleVideo .i 0) (by decide) rfl)
  exact ⟨_, _, h, rfl, writeReturns_iff (w := 64) (f := sampleVideo .p 0) h rfl (by decide)⟩

/-- A reader that never got to read two P frames: the third write aborts the server. -/
theorem writeAborts :
    ∃ q tr, Run QueueStep (createQueue 80) tr q ∧ (sampleVideo .p 0).size ≤ 80 ∧
      ¬ ∃ rc q', writeData q (sampleVideo .p 0).data = .ok (rc, q') := by
  have h := (Run.nil : Run QueueStep (createQueue 80) [] _)
    |>.snoc (.regist (i := 0) rfl)
    |>.snoc (.write (f := sampleVideo .p 0) (by decide) rfl)
    |>.snoc (.write (f := sampleVideo .p 0) (by decide) rfl)
  refine ⟨_, _, h, by decide, ?_⟩
  intro ⟨rc, q', hwrite⟩
  cases hwrite

/-! ## What a reader gets after a write -/

/-- What `n` successive `ReadData` calls deliver, up to the first that fails. -/
def readAll (i : Fin queueUseMax) (bufflen : ℤ) : ℕ → QueueHandle → List (List UInt8)
  | 0, _ => []
  | n + 1, q =>
      match readData i q bufflen with
      | .ok (some data, q') => data :: readAll i bufflen n q'
      | _ => []

theorem readAll_eq {bufflen : ℤ} {n : ℕ} {fs : List Frame} (h : Holds q w u)
    (hu : u i = some fs) (hbuff : ∀ f ∈ fs, (f.size : ℤ) ≤ bufflen) :
    readAll i bufflen n q = (fs.take n).map Frame.data := by
  induction n generalizing q u fs with
  | zero => rw [readAll, List.take_zero, List.map_nil]
  | succ n ih =>
      obtain ⟨r, hr, -⟩ := h.reader hu
      rw [readAll, readData_eq h hr hu]
      cases fs with
      | nil => rfl
      | cons f fs =>
          simp only [hbuff f List.mem_cons_self, if_true]
          rw [ih (read_holds h hr hu) (Function.update_self ..)
            (fun g hg => hbuff g (List.mem_cons_of_mem f hg))]
          rfl

/-- After a write that returned, a reader is given the frames it had unread and then the new one,
    exactly when these leave at least one byte of the ring free. -/
theorem pushUnread_eq_append_iff {fs fs' : List Frame} {r : ℕ}
    (hun : Unread q.dataBuff N w r fs) (hfit : totalSize Frame.size fs + f.size ≤ N)
    (hpush : pushUnread N w f fs = some fs') :
    fs.length + 1 ≤ fs'.length ↔ totalSize Frame.size fs + f.size < N := by
  rw [pushUnread, Option.map_eq_some_iff] at hpush
  obtain ⟨s, hs, rfl⟩ := hpush
  have hroom := landing_room hun (by omega) hs
  constructor
  · intro hlen
    by_contra hfull
    have hs' : totalSize Frame.size fs + f.size = N := by omega
    rw [landing] at hs
    split at hs
    · -- run over: at least the current frame is lost
      obtain ⟨pre, hpre, rfl, -, -⟩ := resync_spec hs
      have hpos := List.length_pos_iff.2 hpre
      rw [appended] at hlen
      split at hlen <;> simp only [List.length_append, List.length_cons, List.length_nil] at hlen
        <;> omega
    · -- not run over, but the ring closes and reads as empty
      obtain rfl := Option.some.inj hs
      rw [appended, if_pos hs', List.length_nil] at hlen
      omega
  · intro hlt
    rw [landing, not_overruns_of_lt hlt] at hs
    obtain rfl := Option.some.inj hs
    rw [appended, if_neg (by omega)]
    simp

/-- **When nothing is lost.** For a reader whose unread bytes and the new frame fit the queue
    together: the write returns and the reader is then given all it had unread and the new frame,
    exactly when one byte of the ring stays free and the writer survives. -/
theorem noLoss_iff {r : ℕ} {fs : List Frame} (h : Run QueueStep (createQueue N) tr q)
    (hw : q.pWrite = some w) (hr : q.pRead i = some r) (hun : Unread q.dataBuff N w r fs)
    (hfit : totalSize Frame.size fs + f.size ≤ N) :
    (∃ rc q', writeData q f.data = .ok (rc, q') ∧
      ∀ bufflen : ℤ, (∀ g ∈ fs ++ [f], (g.size : ℤ) ≤ bufflen) →
        readAll i bufflen (fs.length + 1) q' = (fs ++ [f]).map Frame.data)
      ↔ totalSize Frame.size fs + f.size < N ∧ AllEscape q w f.size := by
  obtain ⟨rfl, u, hq⟩ := reached_holds h hw
  have hu := hq.frames_eq hr hun
  have hf : f.size ≤ q.dataBuffSize := by omega
  rw [hq.allEscape_iff]
  constructor
  · rintro ⟨rc, q', hwrite, hread⟩
    obtain ⟨hland, rfl, -⟩ := landing_of_writeData hq hf hwrite
    refine ⟨?_, hland⟩
    have hq' := (writeData_ok hq hf hland).2
    obtain ⟨s, hs⟩ := Option.ne_none_iff_exists'.1 (hland i fs hu)
    have hpush : pushUnread q.dataBuffSize w f fs = some (appended q.dataBuffSize f s) := by
      rw [pushUnread, hs, Option.map_some]
    have hu' : pushAll q.dataBuffSize w f u i = some (appended q.dataBuffSize f s) := by
      rw [pushAll, hu, Option.bind_some, hpush]
    -- every buffer is large enough that takes any frame at all
    have hbig : ∀ g : Frame, (g.size : ℤ) ≤ 2 ^ 31 := by
      intro g
      have := g.size_lt
      omega
    have hget := hread (2 ^ 31) (fun g _ => hbig g)
    rw [readAll_eq hq' hu' (fun g _ => hbig g)] at hget
    have hlen := congrArg List.length hget
    simp only [List.length_map, List.length_take, List.length_append, List.length_cons,
      List.length_nil] at hlen
    exact (pushUnread_eq_append_iff hun hfit hpush).1 (by omega)
  · rintro ⟨hlt, hland⟩
    obtain ⟨hwrite, hq'⟩ := writeData_ok hq hf hland
    refine ⟨keyTrue, _, hwrite, fun bufflen hbuff => ?_⟩
    have hu' : pushAll q.dataBuffSize w f u i = some (fs ++ [f]) := by
      rw [pushAll, hu, Option.bind_some, pushUnread, landing, not_overruns_of_lt hlt,
        if_neg Bool.false_ne_true, Option.map_some, appended, if_neg (by omega)]
    rw [readAll_eq hq' hu' hbuff, List.take_of_length_le (by simp)]

theorem noLoss_iff_one_frame :
    ∃ q tr, Run QueueStep (createQueue 128) tr q ∧ written tr = [sampleVideo .p 0] ∧
      ((∃ rc q', writeData q (sampleVideo .i 16).data = .ok (rc, q') ∧
        ∀ bufflen : ℤ, (∀ g ∈ [sampleVideo .p 0] ++ [sampleVideo .i 16], (g.size : ℤ) ≤ bufflen) →
          readAll 0 bufflen 2 q' = ([sampleVideo .p 0] ++ [sampleVideo .i 16]).map Frame.data)
        ↔ 32 + 48 < 128 ∧ AllEscape q 32 48) := by
  have h := (Run.nil : Run QueueStep (createQueue 128) [] _)
    |>.snoc (.regist (i := 0) rfl)
    |>.snoc (.write (f := sampleVideo .p 0) (by decide) rfl)
  exact ⟨_, _, h, rfl, noLoss_iff (i := 0) (w := 32) (r := 0) (f := sampleVideo .i 16) h rfl rfl
    ⟨rfl, by decide, by decide, rfl⟩ (by decide)⟩

/-- Two frames that fill the queue exactly: the reader, who had read nothing, gets neither. -/
theorem twoFramesLost :
    ∃ q tr w, Run QueueStep (createQueue 64) tr q ∧ q.pWrite = some w ∧ q.pRead 0 = some 0 ∧
      Unread q.dataBuff 64 w 0 [sampleVideo .i 0] ∧
      totalSize Frame.size [sampleVideo .i 0] + (sampleVideo .p 0).size ≤ 64 ∧
      ∃ q', writeData q (sampleVideo .p 0).data = .ok (keyTrue, q') ∧
        readAll 0 1024 2 q' = [] := by
  have h := (Run.nil : Run QueueStep (createQueue 64) [] _)
    |>.snoc (.regist (i := 0) rfl)
    |>.snoc (.write (f := sampleVideo .i 0) (by decide) rfl)
  exact ⟨_, _, 32, h, rfl, rfl, ⟨rfl, by decide, by decide, rfl⟩, by decide, _, rfl, rfl⟩

/-! ## Where a reader stands after a write -/

/-- The cells the new frame is written over. -/
def span (N w : ℕ) (f : Frame) : Set ℕ := ringCells N w f.size

/-- The cells a reader at `r` has unread. -/
def unreadCells (N w r : ℕ) : Set ℕ := ringCells N r (ringDist N r w)

/-- Where the frame behind `pre` starts, for a reader at `r`. -/
def frameStart (N r : ℕ) (pre : List Frame) : ℕ := ringAdvance N r (totalSize Frame.size pre)

/-- The frame at `p` lies wholly outside the cells written over, and not right behind them. -/
def Beyond (N w : ℕ) (f : Frame) (p : ℕ) (g : Frame) : Prop :=
  Disjoint (ringCells N p g.size) (span N w f) ∧ p % N ≠ (w + f.size) % N

theorem beyond_iff {buff : List UInt8} {r : ℕ} {pre post : List Frame} {g : Frame}
    (hun : Unread buff N w r (pre ++ g :: post)) (hw : w < N) (hf : f.size ≤ N) :
    Beyond N w f (frameStart N r pre) g ↔ totalSize Frame.size (g :: post) + f.size < N := by
  have hg := hun.drop
  have hd := hg.dist
  have hpos := g.size_ge
  have hfpos := f.size_ge
  rw [totalSize_cons] at hd ⊢
  rw [Beyond, span, frameStart,
    disjoint_ringCells_iff hg.r_le hw (by omega) (by omega) hf,
    Ne, ringEnd_eq_iff hg.r_le hw hf (by omega)]
  omega

theorem meets_iff {buff : List UInt8} {r : ℕ} {fs : List Frame} (hun : Unread buff N w r fs)
    (hw : w < N) (hf : f.size ≤ N) :
    ¬ Disjoint (unreadCells N w r) (span N w f) ↔ fs ≠ [] ∧ N < totalSize Frame.size fs + f.size := by
  have hd := hun.dist
  cases fs with
  | nil =>
      rw [totalSize_nil] at hd
      simp [unreadCells, hd, ringCells]
  | cons g fs =>
      have hpos := g.size_ge
      rw [totalSize_cons] at hd ⊢
      rw [unreadCells, span, disjoint_ringCells_iff hun.r_le hw (by omega) le_rfl hf]
      simp only [ne_eq, reduceCtorEq, not_false_eq_true, true_and]
      omega

/-- A reader whose unread bytes are left alone, and which is not right behind the written cells, leaves
    the writer room. -/
theorem room_of_disjoint {buff : List UInt8} {r : ℕ} {fs : List Frame} (hun : Unread buff N w r fs)
    (hw : w < N) (hf : f.size ≤ N) (hdisj : Disjoint (unreadCells N w r) (span N w f))
    (hend : r % N ≠ (w + f.size) % N) : totalSize Frame.size fs + f.size < N := by
  have hnot : ¬ (fs ≠ [] ∧ N < totalSize Frame.size fs + f.size) :=
    fun hmeet => (meets_iff hun hw hf).2 hmeet hdisj
  have hd := hun.dist
  have hfpos := f.size_ge
  by_cases hnil : fs = []
  · subst hnil
    have hdist := ringDist_cases N r w
    rw [totalSize_nil] at hd
    have hrw : r % N = w := by
      have hrle := hun.r_le
      rcases Nat.lt_or_ge r N with hrlt | hrge
      · rw [Nat.mod_eq_of_lt hrlt]; omega
      · obtain rfl : r = N := by omega
        rw [Nat.mod_self]; omega
    have hfull : f.size ≠ N := by
      intro hfull
      rw [hrw, hfull, Nat.add_mod_right, Nat.mod_eq_of_lt hw] at hend
      exact hend rfl
    rw [totalSize_nil]
    omega
  · have hpos := totalSize_pos hnil
    rw [Ne, ringEnd_eq_iff hun.r_le hw hf (by omega)] at hend
    have hle : ¬ N < totalSize Frame.size fs + f.size := fun hlt => hnot ⟨hnil, hlt⟩
    omega

/-- **Where an overrun reader stands.** After a write that returned, a reader whose unread bytes the
    new frame was written over stands at the first of its unread key frames beyond the written
    cells; one whose unread bytes were left alone, and which did not start right behind the written
    cells, has not moved. -/
theorem resynchronised {r : ℕ} {fs : List Frame} {rc : ℤ}
    (h : Run QueueStep (createQueue N) tr q) (hw : q.pWrite = some w) (hf : f.size ≤ N)
    (hwrite : writeData q f.data = .ok (rc, q')) (hr : q.pRead i = some r)
    (hun : Unread q.dataBuff N w r fs) :
    (¬ Disjoint (unreadCells N w r) (span N w f) →
      ∃ pre g post, fs = pre ++ g :: post ∧ g.isKey = true ∧ Beyond N w f (frameStart N r pre) g ∧
        q'.pRead i = some (frameStart N r pre) ∧
        ∀ pre' g' post', fs = pre' ++ g' :: post' → g'.isKey = true →
          Beyond N w f (frameStart N r pre') g' → pre.length ≤ pre'.length) ∧
    (Disjoint (unreadCells N w r) (span N w f) → r % N ≠ (w + f.size) % N →
      q'.pRead i = some r) := by
  obtain ⟨rfl, u, hq⟩ := reached_holds h hw
  have hu := hq.frames_eq hr hun
  have hfpos := f.size_ge
  have hwlt : w < q.dataBuffSize := hq.w_lt (by omega)
  obtain ⟨hland, rfl, -⟩ := landing_of_writeData hq hf hwrite
  obtain ⟨s, hs⟩ := Option.ne_none_iff_exists'.1 (hland i fs hu)
  have hread : (afterWrite q w u f).pRead i = some (ringAdvance q.dataBuffSize r
      (totalSize Frame.size fs - totalSize Frame.size s)) := by
    simp only [afterWrite, landedAll, hr, hu, hs, Option.bind_some, Option.map_some]
  rw [landing] at hs
  constructor
  · intro hmeet
    obtain ⟨hne, hlt⟩ := (meets_iff hun hwlt hf).1 hmeet
    rw [if_pos (overruns_of_lt hlt)] at hs
    obtain ⟨pre, hpre, hfs, hk, hroom⟩ := resync_spec hs
    cases s with
    | nil => exact absurd rfl (ne_nil_of_headKey hk)
    | cons g post =>
        refine ⟨pre, g, post, hfs, hk, ?_, ?_, ?_⟩
        · rw [hfs] at hun
          rw [beyond_iff hun hwlt hf]
          omega
        · rw [hread, frameStart, hfs, totalSize_append, Nat.add_sub_cancel]
        · intro pre' g' post' hfs' hk' hbeyond
          rw [hfs'] at hun
          rw [beyond_iff hun hwlt hf] at hbeyond
          -- the reader's first frame is written over, so it is not the one beyond
          have hpre' : pre' ≠ [] := by
            rintro rfl
            rw [hfs', List.nil_append] at hlt
            omega
          have hfirst := resync_first hs hpre' hfs' hk' (by omega)
          have hlen := congrArg List.length (hfs.symm.trans hfs')
          rw [List.length_append, List.length_append] at hlen
          omega
  · intro hdisj hend
    -- at equality the two branches of the writer differ; the reader is not at that place
    have hlt := room_of_disjoint hun hwlt hf hdisj hend
    rw [not_overruns_of_lt hlt, if_neg Bool.false_ne_true] at hs
    obtain rfl := Option.some.inj hs
    rw [hread, Nat.sub_self, ringAdvance_zero hun.r_le]

theorem resynchronised_three_frames :
    ∃ q q' tr, Run QueueStep (createQueue 128) tr q ∧
      written tr = [sampleVideo .p 0, sampleVideo .i 0, sampleVideo .i 0] ∧
      writeData q (sampleVideo .p 16).data = .ok (keyTrue, q') ∧
      ((¬ Disjoint (unreadCells 128 96 0) (span 128 96 (sampleVideo .p 16)) →
        ∃ pre g post, [sampleVideo .p 0, sampleVideo .i 0, sampleVideo .i 0] = pre ++ g :: post ∧
          g.isKey = true ∧ Beyond 128 96 (sampleVideo .p 16) (frameStart 128 0 pre) g ∧
          q'.pRead 0 = some (frameStart 128 0 pre) ∧
          ∀ pre' g' post', [sampleVideo .p 0, sampleVideo .i 0, sampleVideo .i 0]
              = pre' ++ g' :: post' → g'.isKey = true →
            Beyond 128 96 (sampleVideo .p 16) (frameStart 128 0 pre') g' →
              pre.length ≤ pre'.length) ∧
      (Disjoint (unreadCells 128 96 0) (span 128 96 (sampleVideo .p 16)) →
        0 % 128 ≠ (96 + 48) % 128 → q'.pRead 0 = some 0)) := by
  have h := (Run.nil : Run QueueStep (createQueue 128) [] _)
    |>.snoc (.regist (i := 0) rfl)
    |>.snoc (.write (f := sampleVideo .p 0) (by decide) rfl)
    |>.snoc (.write (f := sampleVideo .i 0) (by decide) rfl)
    |>.snoc (.write (f := sampleVideo .i 0) (by decide) rfl)
  exact ⟨_, _, _, h, rfl, rfl, resynchronised (i := 0) (w := 96) (r := 0)
    (f := sampleVideo .p 16) h rfl (by decide) rfl rfl ⟨rfl, by decide, by decide, rfl⟩⟩

/-- The key frame at `32` lies wholly outside the cells `96 … 127` and `0 … 31` written over, but
    right behind them, and the reader is moved to the next one. -/
theorem resync_skips_key_frame :
    ∃ q q' tr, Run QueueStep (createQueue 128) tr q ∧ q.pWrite = some 96 ∧ q.pRead 0 = some 0 ∧
      Unread q.dataBuff 128 96 0 [sampleVideo .p 0, sampleVideo .i 0, sampleVideo .i 0] ∧
      ¬ Disjoint (unreadCells 128 96 0) (span 128 96 (sampleVideo .p 32)) ∧
      (sampleVideo .i 0).isKey = true ∧
      Disjoint (ringCells 128 (frameStart 128 0 [sampleVideo .p 0]) (sampleVideo .i 0).size)
        (span 128 96 (sampleVideo .p 32)) ∧
      writeData q (sampleVideo .p 32).data = .ok (keyTrue, q') ∧
      q'.pRead 0 = some 64 ∧ q'.pRead 0 ≠ some (frameStart 128 0 [sampleVideo .p 0]) := by
  have h := (Run.nil : Run QueueStep (createQueue 128) [] _)
    |>.snoc (.regist (i := 0) rfl)
    |>.snoc (.write (f := sampleVideo .p 0) (by decide) rfl)
    |>.snoc (.write (f := sampleVideo .i 0) (by decide) rfl)
    |>.snoc (.write (f := sampleVideo .i 0) (by decide) rfl)
  refine ⟨_, _, _, h, rfl, rfl, ⟨rfl, by decide, by decide, rfl⟩, ?_, by decide, ?_, rfl, rfl,
    ?_⟩
  · rw [unreadCells, span, disjoint_ringCells_iff (by decide) (by decide) (by decide) (by decide)
      (by decide)]
    decide
  · rw [span, disjoint_ringCells_iff (by decide) (by decide) (by decide) (by decide) (by decide)]
    decide
  · exact fun hpos => absurd (Option.some.inj hpos) (by decide)

end SmartPlat.MediaQueue
