import SmartPlat.MediaQueue.Proofs.Refinement

set_option autoImplicit false

/-! # Media queue: runs, and what readers get in them

A queue is run by registrations, writes of frames that fit it, and reads with buffers of any size.
Every run is one of the generic log of `ReaderLog.lean` (`queueRun_refines`), so what that file says
about logs with overrunnable readers holds of the ring buffer, bytes and pointers included. -/

namespace SmartPlat.MediaQueue

open SmartPlat.Lib

abbrev QueueEvent := LogEvent (Fin queueUseMax) Frame (List UInt8)

/-- One completed operation on the queue. -/
inductive QueueStep : QueueHandle → QueueEvent → QueueHandle → Prop
  | regist {q q' : QueueHandle} {i : Fin queueUseMax} :
      mediaQueueRegistReadHandle q = ((i : ℤ), q') → QueueStep q (.regist (some i)) q'
  | refuse {q q' : QueueHandle} :
      mediaQueueRegistReadHandle q = (keyFalse, q') → QueueStep q (.regist none) q'
  | write {q q' : QueueHandle} {f : Frame} {rc : ℤ} :
      f.size ≤ q.dataBuffSize → writeData q f.data = .ok (rc, q') → QueueStep q (.write f) q'
  | read {q q' : QueueHandle} {i : Fin queueUseMax} (bufflen : ℤ) {data : Option (List UInt8)} :
      readData i q bufflen = .ok (data, q') → QueueStep q (.read i data) q'

variable {N : ℕ} {q q' : QueueHandle} {w : ℕ} {u : Fin queueUseMax → Option (List Frame)}

/-- `WriteVideoRawData` is such a write for the two video types the readers know. -/
theorem QueueStep.rawVideo {data : List UInt8} {param : QueueVideoInputInfo}
    {mediaType : MediaType} {rc : ℤ} (hkind : mediaType = .h264 ∨ mediaType = .h265)
    (hfit : sizeofMeidaVideo + data.length ≤ q.dataBuffSize)
    (h : writeVideoRawData q data param mediaType = .ok (rc, q')) :
    ∃ f : Frame, f.data = rawFrame mediaType param.bytes data ∧ QueueStep q (.write f) q' := by
  rw [writeVideoRawData] at h
  split at h
  · cases h
  · next hmax =>
      rw [videoRawMax, sizeofMeidaVideo] at hmax
      rw [sizeofMeidaVideo] at hfit
      cases hw : writeData q (rawFrame mediaType param.bytes data) with
      | error e => rw [hw] at h; cases h
      | ok r =>
          rw [hw] at h
          have hq : r.2 = q' := congrArg Prod.snd (Except.ok.inj h)
          let f := Frame.ofRaw mediaType param.bytes data (length_videoInfo param)
            (hkind.imp_right Or.inl) (by omega)
          have hsize : f.size = 32 + data.length := length_rawFrame _ _ (length_videoInfo param)
          exact ⟨f, rfl, .write (by omega) (hw.trans (by rw [← hq]))⟩

/-- `WriteAudioRawData` is such a write for G711A. -/
theorem QueueStep.rawAudio {data : List UInt8} {param : QueueAudioInputInfo} {rc : ℤ}
    (hfit : sizeofMeidaAudio + data.length ≤ q.dataBuffSize)
    (h : writeAudioRawData q data param .g711a = .ok (rc, q')) :
    ∃ f : Frame, f.data = rawFrame .g711a param.bytes data ∧ QueueStep q (.write f) q' := by
  rw [writeAudioRawData] at h
  split at h
  · cases h
  · next hmax =>
      rw [audioRawMax, sizeofMeidaAudio] at hmax
      rw [sizeofMeidaAudio] at hfit
      cases hw : writeData q (rawFrame .g711a param.bytes data) with
      | error e => rw [hw] at h; cases h
      | ok r =>
          rw [hw] at h
          have hq : r.2 = q' := congrArg Prod.snd (Except.ok.inj h)
          let f := Frame.ofRaw .g711a param.bytes data (length_audioInfo param)
            (Or.inr (Or.inr rfl)) (by omega)
          have hsize : f.size = 32 + data.length := length_rawFrame _ _ (length_audioInfo param)
          exact ⟨f, rfl, .write (by omega) (hw.trans (by rw [← hq]))⟩

/-- An H264 frame with `n` zero bytes of payload, for concrete runs. -/
def sampleVideo (frametype : FrameType) (n : Fin 1024) : Frame :=
  Frame.ofRaw .h264 (QueueVideoInputInfo.bytes ⟨25, 0, frametype.code, 0, 640, 480, 512, 0, 0⟩)
    (List.replicate n 0) (length_videoInfo _) (Or.inl rfl) (by rw [List.length_replicate]; omega)

/-! ## Runs refine runs of the log -/

/-- A reader keeps the end of what it had and gets the new frame, or loses everything. -/
theorem pushed_pushUnread {f : Frame} {fs : List Frame}
    (hland : landing q.dataBuffSize w f.size fs ≠ none) {r : ℕ}
    (hun : Unread q.dataBuff q.dataBuffSize w r fs) (hf : f.size ≤ q.dataBuffSize) :
    Pushed f (some fs) (pushUnread q.dataBuffSize w f fs) := by
  obtain ⟨s, hs⟩ := Option.ne_none_iff_exists'.1 hland
  rw [pushUnread, hs, Option.map_some, appended]
  split
  · exact Or.inl rfl
  · exact Or.inr ⟨s, (landing_room hun hf hs).1, rfl⟩

/-- Each operation on a described queue is a step of the log, and leaves a described queue. -/
theorem QueueStep.refines {e : QueueEvent} (h : Holds q w u) (hs : QueueStep q e q') :
    q'.dataBuffSize = q.dataBuffSize ∧
      ∃ w' u', LogStep Frame.data u e u' ∧ Holds q' w' u' := by
  cases hs with
  | regist hr =>
      obtain ⟨hfree, h'⟩ := regist_holds h hr
      refine ⟨?_, w, _, .regist hfree, h'⟩
      rw [mediaQueueRegistReadHandle, if_neg (by simp [h.enabled])] at hr
      split at hr <;> obtain rfl := congrArg Prod.snd hr <;> rfl
  | refuse hr =>
      obtain rfl := regist_refused h hr
      exact ⟨rfl, w, u, .refuse, h⟩
  | @write _ f rc hf hw =>
      obtain ⟨hland, rfl, -⟩ := landing_of_writeData h hf hw
      refine ⟨rfl, _, _, .write fun i => ?_, (writeData_ok h hf hland).2⟩
      rw [pushAll]
      cases hu : u i with
      | none => rfl
      | some fs =>
          obtain ⟨r, -, hun⟩ := h.reader hu
          exact pushed_pushUnread (hland i fs hu) hun hf
  | @read _ i bufflen data hr =>
      cases hu : u i with
      | none =>
          rw [readData, h.free_iff.2 hu] at hr
          obtain ⟨rfl, rfl⟩ := Prod.mk.inj (Except.ok.inj hr)
          exact ⟨rfl, w, u, .empty, h⟩
      | some fs =>
          obtain ⟨r, hread, -⟩ := h.reader hu
          rw [readData_eq h hread hu] at hr
          cases fs with
          | nil =>
              obtain ⟨rfl, rfl⟩ := Prod.mk.inj (Except.ok.inj hr)
              exact ⟨rfl, w, u, .empty, h⟩
          | cons f fs =>
              simp only at hr
              split at hr
              · obtain ⟨rfl, rfl⟩ := Prod.mk.inj (Except.ok.inj hr)
                exact ⟨rfl, w, _, .read hu, read_holds h hread hu⟩
              · obtain ⟨rfl, rfl⟩ := Prod.mk.inj (Except.ok.inj hr)
                exact ⟨rfl, w, u, .empty, h⟩

/-- **Every run of the queue is a run of the log**, and every state it reaches is described by the
    log's. -/
theorem queueRun_refines {tr : List QueueEvent} (h : Run QueueStep (createQueue N) tr q) :
    ∃ u, Run (LogStep Frame.data) (fun _ => none) tr u ∧
      q.dataBuffSize = N ∧ ∃ w, Holds q w u := by
  refine Run.simulate (fun q u => q.dataBuffSize = N ∧ ∃ w, Holds q w u)
    ⟨rfl, 0, createQueue_holds N⟩ (fun q u e q' hR hs => ?_) h
  obtain ⟨hN, w, hq⟩ := hR
  obtain ⟨hN', w', u', hstep, hq'⟩ := hs.refines hq
  exact ⟨u', hstep, hN'.trans hN, w', hq'⟩

/-- **Ring integrity.** After any run, what a reader still has between its pointer and the write
    pointer is a row of whole frames, namely the last ones written; and what it has been given
    together with these is a selection, in order, of the frames written. -/
theorem ringIntegrity {tr : List QueueEvent} (h : Run QueueStep (createQueue N) tr q) :
    ∃ w, q.pWrite = some w ∧ ∀ i,
      (q.pRead i = none → delivered i tr = []) ∧
      ∀ r, q.pRead i = some r → r ≤ N ∧ ∃ fs ds : List Frame,
        ringSlice q.dataBuff r (ringDist N r w) = frameBytes fs ∧ fs <:+ written tr ∧
        delivered i tr = ds.map Frame.data ∧ (ds ++ fs).Sublist (written tr) := by
  obtain ⟨u, hrun, rfl, w, hq⟩ := queueRun_refines h
  refine ⟨w, hq.pWrite, fun i => ?_⟩
  have hsel := LogStep.selects hrun i
  constructor
  · intro hr
    rw [hq.free_iff.1 hr] at hsel
    exact hsel
  · intro r hr
    obtain ⟨fs, hu, hun⟩ := hq.frames hr
    rw [hu] at hsel
    obtain ⟨hsuf, ds, hds, hsub⟩ := hsel
    exact ⟨hun.r_le, fs, ds, hun.bytes, hsuf, hds, hsub⟩

/-- A run in which the third write wraps and pushes the reader past a frame it has not read. -/
theorem ringIntegrity_overrun :
    ∃ q tr, Run QueueStep (createQueue 80) tr q ∧
      delivered 0 tr = [(sampleVideo .i 0).data] ∧ ∃ w, q.pWrite = some w ∧ ∀ i,
      (q.pRead i = none → delivered i tr = []) ∧
      ∀ r, q.pRead i = some r → r ≤ 80 ∧ ∃ fs ds : List Frame,
        ringSlice q.dataBuff r (ringDist 80 r w) = frameBytes fs ∧ fs <:+ written tr ∧
        delivered i tr = ds.map Frame.data ∧ (ds ++ fs).Sublist (written tr) := by
  have h := (Run.nil : Run QueueStep (createQueue 80) [] _)
    |>.snoc (.regist (i := 0) rfl)
    |>.snoc (.write (f := sampleVideo .p 0) (by decide) rfl)
    |>.snoc (.write (f := sampleVideo .i 0) (by decide) rfl)
    |>.snoc (.write (f := sampleVideo .p 0) (by decide) rfl)
    |>.snoc (.read (i := 0) 64 rfl)
  exact ⟨_, _, h, rfl, ringIntegrity h⟩

end SmartPlat.MediaQueue
