import SmartPlat.Rtmp.Proofs.ParameterSets

set_option autoImplicit false

/-! # What fits into the packets

The start code in front of a P frame is cut off without a look at the length. The two parameter sets are
put into a body of 1024 bytes. -/

namespace SmartPlat.Rtmp

open SmartPlat.Lib

variable {m_stream_id : ℤ} {frame : VideoFrame} {timestamp : ℕ}

/-! ## One packet -/

theorem ends_read {R : List UInt8 → Prop} {start n : ℕ} :
    Ends (frame.read start n) R ↔ start + n ≤ frame.Datalen ∧ R ((frame.bytes.drop start).take n) := by
  rw [VideoFrame.read, ends_ite]
  simp

theorem length_take_drop {start n : ℕ} (h : start + n ≤ frame.Datalen) :
    ((frame.bytes.drop start).take n).length = n := by
  rw [List.length_take, List.length_drop]
  exact Nat.min_eq_left (Nat.le_sub_of_add_le' h)

/-- A packet of video data, with a block that can be that large. -/
theorem ends_rtmpPushVideoData {frametype start datasize : ℕ} :
    (Ends (rtmpPushVideoData m_stream_id frame frametype start datasize timestamp) fun _ => True) ↔
      datasize + 10 < 2 ^ 32 ∧ start + datasize ≤ frame.Datalen := by
  have hroom : (datasize + 9 + 1) % 2 ^ 32 < 9 + datasize ↔ ¬ datasize + 10 < 2 ^ 32 := by omega
  rw [rtmpPushVideoData]
  by_cases hsize : datasize + 10 < 2 ^ 32
  · rw [if_neg (hroom.not.2 (not_not.2 hsize)), ends_bind, ends_read]
    simp only [hsize, ends_pure, true_and, and_true]
  · rw [if_pos (hroom.2 hsize)]
    simp only [hsize, not_ends_error, false_and]

/-- The length of a picture parameter set, `0` when there is none. -/
def ppsLen (pps : Option SliceInfo) : ℕ := pps.elim 0 SliceInfo.SliceLen

theorem ends_readPps {R : List UInt8 → Prop} (pps : Option SliceInfo) :
    Ends (pps.elim (.ok []) fun s => frame.read s.Start s.SliceLen) R ↔
      (∀ s ∈ pps, s.Start + s.SliceLen ≤ frame.Datalen) ∧
        R (pps.elim [] fun s => (frame.bytes.drop s.Start).take s.SliceLen) := by
  cases pps with
  | none => simp
  | some s => simp [ends_read]

theorem length_readPps {pps : Option SliceInfo} (h : ∀ s ∈ pps, s.Start + s.SliceLen ≤ frame.Datalen) :
    (pps.elim [] fun s => (frame.bytes.drop s.Start).take s.SliceLen).length = ppsLen pps := by
  cases pps with
  | none => rfl
  | some s => exact length_take_drop (h s rfl)

/-- A packet with the two parameter sets. -/
theorem ends_sendVideoSpsPps {pps : Option SliceInfo} {sps : SliceInfo} :
    (Ends (sendVideoSpsPps m_stream_id frame pps sps timestamp) fun _ => True) ↔
      sps.Start + 4 ≤ frame.Datalen ∧ sps.Start + sps.SliceLen ≤ frame.Datalen ∧
        (∀ s ∈ pps, s.Start + s.SliceLen ≤ frame.Datalen) ∧ sps.SliceLen + ppsLen pps ≤ 1008 := by
  rw [sendVideoSpsPps]
  simp only [ends_bind, ends_read, ends_readPps, Nat.add_assoc]
  refine and_congr_right fun hprofile => and_congr_right fun hsps => and_congr_right fun hpps => ?_
  have hthree : sps.Start + 1 + 3 ≤ frame.Datalen := hprofile
  simp only [List.length_append, List.length_cons, List.length_nil, length_take_drop hthree,
    length_take_drop hsps, length_readPps hpps]
  by_cases hfits : sps.SliceLen + ppsLen pps ≤ 1008
  · rw [if_pos (by omega)]
    simp [hfits]
  · rw [if_neg (by omega)]
    simp [hfits]

/-! ## Slices are inside the frame -/

/-- A slice that ends with a start code has one behind it, and a header. -/
theorem slices_inside {Datalen off : ℕ} {us : List (List UInt8)}
    (hclosed : Closed (located startCode off us))
    (hlen : off + (joinMarked startCode us).length ≤ Datalen + 4) {s : SliceInfo}
    (hs : s ∈ slices Datalen (located startCode off us)) :
    s.Start + s.SliceLen ≤ Datalen ∧ (s.nut ∉ [NalUnitType.p, .idr] → s.Start + 4 ≤ Datalen) := by
  induction us generalizing off with
  | nil => cases hs
  | cons u us ih =>
      rw [joinMarked_cons, List.length_append, List.length_append, startCode_length] at hlen
      rw [located, startCode_length] at hs hclosed
      cases u with
      | nil => exact ih hclosed (by simp at hlen ⊢; omega) hs
      | cons b x =>
          cases hcase : sliceCase b with
          | rest nut =>
              rw [slices_rest hcase, List.mem_singleton] at hs
              subst hs
              exact ⟨by simp only [List.length_cons] at hlen ⊢; omega, fun h => absurd (type_of_rest hcase).2 h⟩
          | scanned nut =>
              rw [closed_scanned hcase] at hclosed
              rw [slices_scanned hcase, List.mem_cons] at hs
              rcases hs with rfl | hs
              · cases us with
                | nil => exact absurd rfl hclosed.1
                | cons w us =>
                    rw [joinMarked_cons, List.length_append, startCode_length] at hlen
                    simp only [List.length_cons] at hlen ⊢
                    exact ⟨by omega, fun _ => by omega⟩
              · exact ih hclosed.2 (by omega) hs
          | skipped =>
              rw [closed_skipped hcase] at hclosed
              rw [slices_skipped hcase] at hs
              exact ih hclosed (by omega) hs

/-! ## The packets of a frame -/

/-- `PushVideoData` ends when all its packets do. -/
theorem ends_pushVideoData {sent : ℕ → ℤ} {type : ℕ} :
    (Ends (pushVideoData m_stream_id frame sent type timestamp) fun _ => True) ↔
      Ends (videoCalls frame sent type) fun p =>
        ∀ c ∈ p.2, Ends (RtmpCall.packet m_stream_id frame timestamp c) fun _ => True := by
  rw [pushVideoData, ends_bind]
  exact ends_congr fun p => by simp only [ends_bind, ends_pure, ends_mapM_true]

/-- The parameter sets from element `i` on fit into the body of their packet. -/
structure Fits (table : List SliceInfo) (i : ℕ) (s : SliceInfo) : Prop where
  sps : s.nut = .sps → i < 9 ∧ s.SliceLen + ppsLen table[i + 1]? ≤ 1008
  idr : s.nut = .idr → s.SliceLen + 10 < 2 ^ 32

theorem pushes_iff_fits (hclosed : Closed frame.units) {i : ℕ} {s : SliceInfo}
    (hs : (slices frame.Datalen frame.units)[i]? = some s) :
    Pushes (slices frame.Datalen frame.units)
        (fun c => Ends (RtmpCall.packet m_stream_id frame timestamp c) fun _ => True) i s ↔
      Fits (slices frame.Datalen frame.units) i s := by
  have hinside : ∀ s ∈ slices frame.Datalen frame.units, s.Start + s.SliceLen ≤ frame.Datalen ∧
      (s.nut ∉ [NalUnitType.p, .idr] → s.Start + 4 ≤ frame.Datalen) := by
    obtain ⟨off, us, hunits, hlen⟩ := marked_eq_located (m := startCode) 0 frame.bytes
    rw [VideoFrame.units, hunits] at hclosed ⊢
    rw [startCode_length, Nat.zero_add] at hlen
    exact fun s hs => slices_inside hclosed hlen hs
  obtain ⟨hend, hheader⟩ := hinside s (List.mem_of_getElem? hs)
  have hnext : ∀ q ∈ (slices frame.Datalen frame.units)[i + 1]?, q.Start + q.SliceLen ≤ frame.Datalen :=
    fun q hq => (hinside q (List.mem_of_getElem? hq)).1
  constructor
  · intro h
    refine ⟨fun hsps => ?_, fun hidr => (ends_rtmpPushVideoData.1 (h.idr hidr)).1⟩
    obtain ⟨hi, hpacket⟩ := h.sps hsps
    obtain ⟨-, -, -, hfits⟩ := ends_sendVideoSpsPps.1 hpacket
    exact ⟨by omega, hfits⟩
  · intro h
    refine ⟨fun hsps => ?_, fun hidr => ends_rtmpPushVideoData.2 ⟨h.idr hidr, hend⟩⟩
    obtain ⟨hi, hfits⟩ := h.sps hsps
    exact ⟨by omega, ends_sendVideoSpsPps.2 ⟨hheader (by simp [hsps]), hend, hnext, hfits⟩⟩

/-- A frame whose packets are all inside their blocks and inside the frame, whatever the server takes. -/
def SafelySent (m_stream_id : ℤ) (frame : VideoFrame) (type timestamp : ℕ) : Prop :=
  ∀ sent, Ends (pushVideoData m_stream_id frame sent type timestamp) fun _ => True

theorem safelySent_I :
    SafelySent m_stream_id frame API_FRAME_TYPE_I timestamp ↔
      (Ends (getH264FrameSliceInfo frame) fun _ => True) ∧
        ∀ i s, (slices frame.Datalen frame.units)[i]? = some s →
          Fits (slices frame.Datalen frame.units) i s := by
  simp only [SafelySent, ends_pushVideoData, forall_ends_videoCalls]
  refine and_congr_right fun hscan => ?_
  obtain ⟨-, hclosed, -⟩ := (ends_getH264FrameSliceInfo (R := fun _ => True)).1 hscan
  exact forall_congr' fun i => forall_congr' fun s => forall_congr' fun hs => pushes_iff_fits hclosed hs

theorem safelySent_P :
    SafelySent m_stream_id frame API_FRAME_TYPE_P timestamp ↔
      4 ≤ frame.Datalen ∧ frame.Datalen + 6 < 2 ^ 32 := by
  have hfits : frame.Datalen < 2 ^ 32 := frame.fits
  have hcall : ∀ sent, (Ends (pushVideoData m_stream_id frame sent API_FRAME_TYPE_P timestamp) fun _ => True) ↔
      frame.less4 + 10 < 2 ^ 32 ∧ 4 + frame.less4 ≤ frame.Datalen := fun sent => by
    rw [ends_pushVideoData, videoCalls, if_neg (by decide), if_pos rfl, ends_ok, List.forall_mem_singleton]
    exact ends_rtmpPushVideoData
  simp only [SafelySent, hcall, forall_const]
  by_cases hlen : 4 ≤ frame.Datalen
  · rw [less4_of_ge hlen]
    omega
  · rw [less4_of_lt (Nat.lt_of_not_le hlen)]
    omega

/-- Everything that is sent for a frame is inside its block and the frame exactly when a P frame has a start
    code and room in front of it is left in 32 bits, and an I frame is scanned safely, has no sequence
    parameter set in the last element, no two parameter sets of more than 1008 bytes and a slice that leaves
    room as well. -/
theorem packets_iff (m_stream_id : ℤ) (frame : VideoFrame) (type timestamp : ℕ) :
    SafelySent m_stream_id frame type timestamp ↔
      (type = API_FRAME_TYPE_P → 4 ≤ frame.Datalen ∧ frame.Datalen + 6 < 2 ^ 32) ∧
        (type = API_FRAME_TYPE_I →
          4 ≤ frame.Datalen ∧ Closed frame.units ∧ (stored frame.units).length ≤ 10 ∧
            ∀ i s, (slices frame.Datalen frame.units)[i]? = some s →
              Fits (slices frame.Datalen frame.units) i s) := by
  by_cases hP : type = API_FRAME_TYPE_P
  · subst hP
    have hI : ¬ API_FRAME_TYPE_P = API_FRAME_TYPE_I := by decide
    simp only [safelySent_P, hI, forall_const, false_imp_iff, and_true]
  · by_cases hI : type = API_FRAME_TYPE_I
    · subst hI
      rw [safelySent_I, ends_getH264FrameSliceInfo (R := fun _ => True), length_slices]
      simp only [hP, forall_const, false_imp_iff, true_and, and_true, and_assoc]
    · have hnone : SafelySent m_stream_id frame type timestamp := fun sent => by
        rw [ends_pushVideoData, videoCalls, if_neg hI, if_neg hP]
        exact ends_ok.2 fun c hc => by cases hc
      simp only [hnone, hP, hI, false_imp_iff, and_self]

/-- A P frame of three bytes. -/
theorem payload_wraps :
    ¬ SafelySent 1 ⟨[0x00, 0x00, 0x01], by decide⟩ API_FRAME_TYPE_P 0 := fun h =>
  not_ends_error (h fun _ => 1)

end SmartPlat.Rtmp
