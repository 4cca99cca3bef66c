import SmartPlat.Rtmp.Proofs.SliceScan

set_option autoImplicit false

/-! # Units and parameter sets in what is sent

`PushVideoData` sends as picture parameter set whatever is stored behind the sequence parameter set. -/

namespace SmartPlat.Rtmp

open SmartPlat.Lib

variable {frame : VideoFrame} {info : H264FrameSliceInfo} {P : RtmpCall → Prop}

/-! ## The calls for the slices of a table -/

theorem flag_sps_iff {nut : NalUnitType} : nut.flag &&& NalUnitType.sps.flag ≠ 0 ↔ nut = .sps := by
  cases nut <;> decide

theorem flag_idr_iff {nut : NalUnitType} : nut.flag &&& NalUnitType.idr.flag ≠ 0 ↔ nut = .idr := by
  cases nut <;> decide

theorem ends_entry {R : Option SliceInfo → Prop} {i : ℕ} :
    Ends (info.entry i) R ↔ i < 10 ∧ R info.Sliceinfo[i]? := by
  rw [H264FrameSliceInfo.entry, ends_ite]
  simp

/-- The call for element `s` at `i`, if there is one, is as `P` says. -/
structure Pushes (table : List SliceInfo) (P : RtmpCall → Prop) (i : ℕ) (s : SliceInfo) : Prop where
  sps : s.nut = .sps → i + 1 < 10 ∧ P (.spsPps table[i + 1]? s)
  idr : s.nut = .idr → P (.video API_FRAME_TYPE_I s.Start s.SliceLen)

section

variable {sent : ℕ → ℤ} {i : ℕ} {s : SliceInfo} {ss : List SliceInfo} {ret : ℤ}

theorem ends_pushSlices_sps (h : s.nut = .sps) :
    (Ends (pushSlices sent info i (s :: ss) ret) fun p => ∀ c ∈ p.2, P c) ↔
      (i + 1 < 10 ∧ P (.spsPps info.Sliceinfo[i + 1]? s)) ∧
        (0 < sent i → Ends (pushSlices sent info (i + 1) ss (sent i)) fun p => ∀ c ∈ p.2, P c) := by
  rw [pushSlices, if_pos (flag_sps_iff.2 h)]
  simp only [ends_bind, ends_entry, and_assoc]
  by_cases hsent : sent i ≤ 0
  · simp [hsent, Int.not_lt.2 hsent]
  · simp [hsent, Int.not_le.1 hsent, ends_and_left]

theorem ends_pushSlices_idr (h : s.nut = .idr) :
    (Ends (pushSlices sent info i (s :: ss) ret) fun p => ∀ c ∈ p.2, P c) ↔
      P (.video API_FRAME_TYPE_I s.Start s.SliceLen) ∧
        Ends (pushSlices sent info (i + 1) ss (sent i)) fun p => ∀ c ∈ p.2, P c := by
  have hsps : ¬ s.nut = .sps := by simp [h]
  rw [pushSlices, if_neg (flag_sps_iff.not.2 hsps), if_pos (flag_idr_iff.2 h)]
  simp [ends_and_left]

theorem pushSlices_other (hsps : s.nut ≠ .sps) (hidr : s.nut ≠ .idr) :
    pushSlices sent info i (s :: ss) ret = pushSlices sent info (i + 1) ss ret := by
  rw [pushSlices, if_neg (flag_sps_iff.not.2 hsps), if_neg (flag_idr_iff.not.2 hidr)]

/-- Whatever the calls return, they are among those of all elements. -/
theorem ends_pushSlices (h : ∀ j s, ss[j]? = some s → Pushes info.Sliceinfo P (i + j) s) :
    Ends (pushSlices sent info i ss ret) fun p => ∀ c ∈ p.2, P c := by
  induction ss generalizing i ret with
  | nil => simp [pushSlices]
  | cons s ss ih =>
      have hs : Pushes info.Sliceinfo P i s := h 0 s rfl
      have hrest : ∀ ret, Ends (pushSlices sent info (i + 1) ss ret) fun p => ∀ c ∈ p.2, P c := fun ret =>
        ih fun j s hj => by
          have hnext := h (j + 1) s hj
          rwa [← Nat.add_assoc, Nat.add_right_comm] at hnext
      by_cases hsps : s.nut = .sps
      · exact (ends_pushSlices_sps hsps).2 ⟨hs.sps hsps, fun _ => hrest _⟩
      · by_cases hidr : s.nut = .idr
        · exact (ends_pushSlices_idr hidr).2 ⟨hs.idr hidr, hrest _⟩
        · rw [pushSlices_other hsps hidr]
          exact hrest ret

/-- And when none of them fails, they are these calls. -/
theorem pushes_of_ends (h : Ends (pushSlices (fun _ => 1) info i ss ret) fun p => ∀ c ∈ p.2, P c) :
    ∀ j s, ss[j]? = some s → Pushes info.Sliceinfo P (i + j) s := by
  induction ss generalizing i ret with
  | nil => simp
  | cons s ss ih =>
      have hstep : Pushes info.Sliceinfo P i s ∧
          ∃ ret, Ends (pushSlices (fun _ => 1) info (i + 1) ss ret) fun p => ∀ c ∈ p.2, P c := by
        by_cases hsps : s.nut = .sps
        · obtain ⟨hcall, hrest⟩ := (ends_pushSlices_sps hsps).1 h
          exact ⟨⟨fun _ => hcall, fun hidr => by simp [hidr] at hsps⟩, 1, hrest Int.one_pos⟩
        · by_cases hidr : s.nut = .idr
          · obtain ⟨hcall, hrest⟩ := (ends_pushSlices_idr hidr).1 h
            exact ⟨⟨fun h => absurd h hsps, fun _ => hcall⟩, 1, hrest⟩
          · rw [pushSlices_other hsps hidr] at h
            exact ⟨⟨fun h => absurd h hsps, fun h => absurd h hidr⟩, ret, h⟩
      obtain ⟨hs, ret, hrest⟩ := hstep
      intro j s' hj
      cases j with
      | zero =>
          cases hj
          exact hs
      | succ j =>
          have hnext := ih hrest j s' hj
          rwa [Nat.add_right_comm, Nat.add_assoc] at hnext

end

/-- The calls for an I frame. -/
theorem forall_ends_videoCalls :
    (∀ sent, Ends (videoCalls frame sent API_FRAME_TYPE_I) fun p => ∀ c ∈ p.2, P c) ↔
      (Ends (getH264FrameSliceInfo frame) fun _ => True) ∧
        ∀ i s, (slices frame.Datalen frame.units)[i]? = some s →
          Pushes (slices frame.Datalen frame.units) P i s := by
  have hcalls : ∀ sent, (Ends (videoCalls frame sent API_FRAME_TYPE_I) fun p => ∀ c ∈ p.2, P c) ↔
      Ends (getH264FrameSliceInfo frame) fun info =>
        Ends (pushSlices sent info 0 info.Sliceinfo 0) fun p => ∀ c ∈ p.2, P c := fun sent => by
    rw [videoCalls, if_pos rfl, ends_bind]
  have hpushes : ((Ends (getH264FrameSliceInfo frame) fun _ => True) ∧
      ∀ i s, (slices frame.Datalen frame.units)[i]? = some s →
        Pushes (slices frame.Datalen frame.units) P i s) ↔
      Ends (getH264FrameSliceInfo frame) fun info =>
        ∀ i s, info.Sliceinfo[i]? = some s → Pushes info.Sliceinfo P i s := by
    rw [ends_getH264FrameSliceInfo (R := fun _ => True),
      ends_getH264FrameSliceInfo (R := fun l => ∀ i s, l[i]? = some s → Pushes l P i s)]
    simp only [and_true, and_assoc]
  rw [hpushes]
  simp only [hcalls]
  constructor
  · intro h
    obtain ⟨info, hinfo, hpush⟩ := h fun _ => 1
    refine ⟨info, hinfo, fun i s hi => ?_⟩
    have hs := pushes_of_ends hpush i s hi
    rwa [Nat.zero_add] at hs
  · rintro ⟨info, hinfo, hpush⟩ sent
    refine ⟨info, hinfo, ends_pushSlices fun j s hj => ?_⟩
    rw [Nat.zero_add]
    exact hpush j s hj

/-! ## Frames of whole units -/

def unitType (u : List UInt8) : Option NalUnitType := u.head?.bind NalUnitType.ofHeader

/-- Coded slices, also those of a partition. -/
def CodedSlice (u : List UInt8) : Prop := ∃ nut ∈ unitType u, nut ∈ [.p, .dataA, .dataB, .dataC, .idr]

instance (u : List UInt8) : Decidable (CodedSlice u) :=
  inferInstanceAs (Decidable (∃ nut ∈ unitType u, _))

/-- NAL units with a start code in front of each, ten at most, and the last a coded slice. -/
structure NalUnits where
  units : List (List UInt8)
  few : units.length ≤ 10
  whole : ∀ u ∈ units, startCode.Whole u
  last : ∃ u ∈ units.getLast?, CodedSlice u
  fits : (joinMarked startCode units).length < 2 ^ 32

def NalUnits.toFrame (us : NalUnits) : VideoFrame := ⟨joinMarked startCode us.units, us.fits⟩

/-- Up to the first coded slice, which is one of them. -/
def upToSlice : List (Piece UInt8) → List (Piece UInt8)
  | [] => []
  | u :: us => if CodedSlice u.content then [u] else u :: upToSlice us

/-- The place, the length and the type of a slice. -/
def sliceExtent (s : SliceInfo) : ℕ × ℕ × Option NalUnitType := (s.Start, s.SliceLen, some s.nut)

/-- And of a unit. -/
def unitExtent (u : Piece UInt8) : ℕ × ℕ × Option NalUnitType := (u.start, u.content.length, unitType u.content)

/-- The first units of the frame are what is stored. -/
def NalUnits.SplitExactly (us : NalUnits) : Prop :=
  Ends (getH264FrameSliceInfo us.toFrame) fun info =>
    info.Sliceinfo.map sliceExtent = (upToSlice (located startCode 4 us.units)).map unitExtent

/-- A sequence parameter set is sent with a picture parameter set. -/
def RtmpCall.Genuine : RtmpCall → Prop
  | .spsPps pps sps => sps.nut = .sps ∧ ∃ s ∈ pps, s.nut = .pps
  | .video .. => True

def NalUnits.SendsPairs (us : NalUnits) : Prop :=
  ∀ sent type, Ends (videoCalls us.toFrame sent type) fun p => ∀ c ∈ p.2, c.Genuine

/-- The types of slices that are all that is left of a frame. -/
def TakesRest (u : List UInt8) : Prop := ∃ nut ∈ unitType u, nut ∈ [.p, .idr]

/-- The types of slices that end with the next start code. -/
def EndsAtCode (u : List UInt8) : Prop := ∃ nut ∈ unitType u, nut ∈ [.sei, .sps, .pps, .delimiter]

/-- The last unit, and no other, is a slice that takes the rest of the frame; no unit is skipped. -/
structure OneSlice (us : List (List UInt8)) : Prop where
  before : ∀ u ∈ us.dropLast, EndsAtCode u
  last : ∃ u ∈ us.getLast?, TakesRest u

/-! ## The types -/

variable {b : UInt8} {nut : NalUnitType}

theorem type_of_rest (h : sliceCase b = .rest nut) :
    NalUnitType.ofHeader b = some nut ∧ nut ∈ [NalUnitType.p, .idr] := by
  rw [sliceCase] at h
  split at h <;> cases h <;> simp [*]

theorem type_of_scanned (h : sliceCase b = .scanned nut) :
    NalUnitType.ofHeader b = some nut ∧ nut ∈ [NalUnitType.sei, .sps, .pps, .delimiter] := by
  rw [sliceCase] at h
  split at h <;> cases h <;> simp [*]

theorem type_of_skipped (h : sliceCase b = .skipped) (hnut : NalUnitType.ofHeader b = some nut) :
    nut ∉ [NalUnitType.p, .idr, .sei, .sps, .pps, .delimiter] := by
  rw [sliceCase, hnut] at h
  cases nut <;> simp at h ⊢

/-! ## Splitting -/

variable {Datalen start off : ℕ} {u : List UInt8} {us : List (List UInt8)}

/-- Only slices of these types are stored. -/
theorem nut_of_mem_slices {ps : List (Piece UInt8)} {s : SliceInfo} (h : s ∈ slices Datalen ps) :
    s.nut ∈ [NalUnitType.p, .idr, .sei, .sps, .pps, .delimiter] := by
  induction ps with
  | nil => cases h
  | cons p ps ih =>
      obtain ⟨start, content⟩ := p
      cases content with
      | nil => exact ih h
      | cons b x =>
          cases hcase : sliceCase b with
          | rest nut =>
              obtain ⟨-, hnut⟩ := type_of_rest hcase
              rw [slices_rest hcase, List.mem_singleton] at h
              rw [h]
              exact List.mem_append_left [NalUnitType.sei, .sps, .pps, .delimiter] hnut
          | scanned nut =>
              obtain ⟨-, hnut⟩ := type_of_scanned hcase
              rw [slices_scanned hcase, List.mem_cons] at h
              rcases h with rfl | h
              · exact List.mem_append_right [NalUnitType.p, .idr] hnut
              · exact ih h
          | skipped =>
              rw [slices_skipped hcase] at h
              exact ih h

theorem coded_of_rest (h : sliceCase b = .rest nut) (x : List UInt8) : CodedSlice (b :: x) := by
  obtain ⟨htype, hnut⟩ := type_of_rest h
  refine ⟨nut, htype, ?_⟩
  cases nut <;> simp at hnut ⊢

theorem not_endsAtCode_of_rest (h : sliceCase b = .rest nut) (x : List UInt8) : ¬ EndsAtCode (b :: x) := by
  obtain ⟨htype, hnut⟩ := type_of_rest h
  rintro ⟨nut', htype', hnut'⟩
  cases htype.symm.trans htype'
  cases nut <;> simp at hnut hnut'

theorem not_coded_of_endsAtCode (h : EndsAtCode u) : ¬ CodedSlice u := by
  obtain ⟨nut, htype, hnut⟩ := h
  rintro ⟨nut', htype', hnut'⟩
  cases htype.symm.trans htype'
  cases nut <;> simp at hnut hnut'

theorem not_typed_of_skipped (h : sliceCase b = .skipped) (x : List UInt8) :
    ¬ TakesRest (b :: x) ∧ ¬ EndsAtCode (b :: x) := by
  constructor
  · rintro ⟨nut, htype, hnut⟩
    exact type_of_skipped h htype (List.mem_append_left [NalUnitType.sei, .sps, .pps, .delimiter] hnut)
  · rintro ⟨nut, htype, hnut⟩
    exact type_of_skipped h htype (List.mem_append_right [NalUnitType.p, .idr] hnut)

theorem upToSlice_cons (p : Piece UInt8) (ps : List (Piece UInt8)) :
    ∃ qs, upToSlice (p :: ps) = p :: qs := by
  rw [upToSlice]
  split
  · exact ⟨[], rfl⟩
  · exact ⟨_, rfl⟩

/-- A skipped unit is missing in what is stored. -/
theorem map_slices_ne_of_skipped (h : sliceCase b = .skipped) (x : List UInt8) (ps qs : List (Piece UInt8)) :
    (slices Datalen ps).map sliceExtent ≠ (upToSlice (⟨start, b :: x⟩ :: qs)).map unitExtent := by
  intro heq
  obtain ⟨rest, hrest⟩ := upToSlice_cons ⟨start, b :: x⟩ qs
  rw [hrest, List.map_cons, List.map_eq_cons_iff] at heq
  obtain ⟨s, l, hslices, hs, -⟩ := heq
  have htype : some s.nut = unitType (b :: x) := congrArg (fun e => e.2.2) hs
  refine type_of_skipped h htype.symm (nut_of_mem_slices (?_ : s ∈ slices Datalen ps))
  rw [hslices]
  exact List.mem_cons_self

theorem oneSlice_singleton : OneSlice [u] ↔ TakesRest u := by
  constructor
  · intro h
    simpa using h.last
  · intro h
    exact ⟨by simp, by simpa using h⟩

theorem oneSlice_cons {w : List UInt8} : OneSlice (u :: w :: us) ↔ EndsAtCode u ∧ OneSlice (w :: us) := by
  constructor
  · rintro ⟨hbefore, hlast⟩
    rw [List.dropLast_cons_cons, List.forall_mem_cons] at hbefore
    exact ⟨hbefore.1, hbefore.2, hlast⟩
  · rintro ⟨hu, hbefore, hlast⟩
    refine ⟨?_, hlast⟩
    rw [List.dropLast_cons_cons, List.forall_mem_cons]
    exact ⟨hu, hbefore⟩

/-- The units are split exactly when none but the last takes the rest of the frame or is skipped. -/
theorem split_iff (hne : ∀ u ∈ us, u ≠ []) (hlast : ∃ u ∈ us.getLast?, CodedSlice u)
    (hlen : Datalen + 4 = off + (joinMarked startCode us).length) :
    (Closed (located startCode off us) ∧
      (slices Datalen (located startCode off us)).map sliceExtent =
        (upToSlice (located startCode off us)).map unitExtent) ↔ OneSlice us := by
  induction us generalizing off with
  | nil => simp at hlast
  | cons u us ih =>
      obtain ⟨hu, hus⟩ := List.forall_mem_cons.1 hne
      obtain ⟨b, x, rfl⟩ := List.exists_cons_of_ne_nil hu
      rw [joinMarked_cons, List.length_append, List.length_append, startCode_length] at hlen
      rw [located, startCode_length]
      cases us with
      | nil =>
          have hcoded : CodedSlice (b :: x) := by simpa using hlast
          rw [oneSlice_singleton]
          cases hcase : sliceCase b with
          | rest nut =>
              obtain ⟨htype, hnut⟩ := type_of_rest hcase
              have hrest : Datalen - off = (b :: x).length := by
                rw [joinMarked_nil, List.length_nil] at hlen
                omega
              refine iff_of_true ⟨closed_rest hcase, ?_⟩ ⟨nut, htype, hnut⟩
              rw [located, upToSlice, if_pos hcoded, slices_rest hcase, hrest]
              simp [sliceExtent, unitExtent, unitType, htype]
          | scanned nut => exact absurd hcoded (not_coded_of_endsAtCode ⟨nut, type_of_scanned hcase⟩)
          | skipped =>
              rw [slices_skipped hcase]
              exact iff_of_false (fun h => map_slices_ne_of_skipped hcase x _ _ h.2)
                (not_typed_of_skipped hcase x).1
      | cons w us =>
          rw [oneSlice_cons]
          cases hcase : sliceCase b with
          | rest nut =>
              refine iff_of_false ?_ fun h => not_endsAtCode_of_rest hcase x h.1
              rintro ⟨-, heq⟩
              rw [slices_rest hcase, upToSlice, if_pos (coded_of_rest hcase x)] at heq
              have hrest : Datalen - off = (b :: x).length :=
                congrArg (fun e => e.2.1) (List.head_eq_of_cons_eq heq)
              rw [joinMarked_cons, List.length_append, startCode_length] at hlen
              omega
          | scanned nut =>
              have hends : EndsAtCode (b :: x) := ⟨nut, type_of_scanned hcase⟩
              have hhead : sliceExtent ⟨off, (b :: x).length, nut⟩ = unitExtent ⟨off, b :: x⟩ := by
                simp [sliceExtent, unitExtent, unitType, (type_of_scanned hcase).1]
              have hmore : located startCode (off + (b :: x).length + 4) (w :: us) ≠ [] := by simp [located]
              have hnext := @ih (off + (b :: x).length + 4) hus (by simpa using hlast) (by omega)
              rw [closed_scanned hcase, slices_scanned hcase, upToSlice,
                if_neg (not_coded_of_endsAtCode hends), List.map_cons, List.map_cons, hhead,
                List.cons_eq_cons, ← hnext]
              simp only [hmore, hends, ne_eq, not_false_eq_true, true_and]
          | skipped =>
              rw [slices_skipped hcase]
              exact iff_of_false (fun h => map_slices_ne_of_skipped hcase x _ _ h.2)
                fun h => (not_typed_of_skipped hcase x).2 h.1

/-- Nothing is left of a frame behind its only slice. -/
theorem upToSlice_of_oneSlice (h : OneSlice us) :
    upToSlice (located startCode off us) = located startCode off us := by
  induction us generalizing off with
  | nil => rfl
  | cons u us ih =>
      rw [located, upToSlice]
      cases us with
      | nil => simp [located, upToSlice]
      | cons w us =>
          obtain ⟨hends, hnext⟩ := oneSlice_cons.1 h
          rw [if_neg (not_coded_of_endsAtCode hends), ih hnext]

theorem units_toFrame (us : NalUnits) : us.toFrame.units = located startCode 4 us.units :=
  marked_joinMarked 0 us.whole

theorem NalUnits.four_le (us : NalUnits) : 4 ≤ us.toFrame.Datalen := by
  obtain ⟨u, hu, -⟩ := us.last
  have hlen : us.toFrame.Datalen = (joinMarked startCode us.units).length := rfl
  cases hunits : us.units with
  | nil => simp [hunits] at hu
  | cons w ws =>
      rw [hlen, hunits, joinMarked_cons, List.length_append, startCode_length]
      omega

theorem splitExactly_iff (us : NalUnits) : us.SplitExactly ↔ OneSlice us.units := by
  have hlen : us.toFrame.Datalen + 4 = 4 + (joinMarked startCode us.units).length := Nat.add_comm _ _
  have hsplit := split_iff (fun u hu => (us.whole u hu).ne_nil) us.last hlen
  rw [NalUnits.SplitExactly, ends_getH264FrameSliceInfo
    (R := fun l => l.map sliceExtent = (upToSlice (located startCode 4 us.units)).map unitExtent),
    units_toFrame, ← hsplit]
  constructor
  · rintro ⟨-, hclosed, -, hmap⟩
    exact ⟨hclosed, hmap⟩
  · rintro ⟨hclosed, hmap⟩
    have hroom := congrArg List.length hmap
    rw [upToSlice_of_oneSlice (hsplit.1 ⟨hclosed, hmap⟩), List.length_map, List.length_map,
      length_located] at hroom
    exact ⟨us.four_le, hclosed, hroom ▸ us.few, hmap⟩

/-- What is stored has the types of the units. -/
theorem map_nut_slices {us : NalUnits} (h : OneSlice us.units)
    (hmap : (slices us.toFrame.Datalen us.toFrame.units).map sliceExtent =
      (upToSlice (located startCode 4 us.units)).map unitExtent) :
    (slices us.toFrame.Datalen us.toFrame.units).map (fun s => some s.nut) = us.units.map unitType := by
  have htypes := congrArg (List.map fun e => e.2.2) hmap
  rw [upToSlice_of_oneSlice h, List.map_map, List.map_map] at htypes
  rw [← map_content_located 4 us.units, List.map_map]
  exact htypes

/-- Each sequence parameter set has a picture parameter set next to it. -/
def Paired (us : List (List UInt8)) : Prop :=
  ∀ (i : ℕ) (u : List UInt8), us[i]? = some u → unitType u = some .sps →
    ∃ w ∈ us[i + 1]?, unitType w = some .pps

theorem exists_of_map_eq {α β γ : Type} {f : α → γ} {g : β → γ} {l : List α} {l' : List β} {i : ℕ} {a : α}
    (h : l.map f = l'.map g) (ha : l[i]? = some a) : ∃ b, l'[i]? = some b ∧ g b = f a := by
  have hi : (l'.map g)[i]? = some (f a) := by rw [← h, List.getElem?_map, ha, Option.map_some]
  rwa [List.getElem?_map, Option.map_eq_some_iff] at hi

theorem genuine_iff {table : List SliceInfo} (htable : table.length ≤ 10)
    (hnut : table.map (fun s => some s.nut) = us.map unitType) :
    (∀ i s, table[i]? = some s → Pushes table RtmpCall.Genuine i s) ↔ Paired us := by
  constructor
  · intro h i u hu htype
    obtain ⟨s, hs, hsps⟩ := exists_of_map_eq hnut.symm hu
    obtain ⟨-, -, q, hq, hpps⟩ := (h i s hs).sps (Option.some.inj (hsps.trans htype))
    obtain ⟨w, hw, hwtype⟩ := exists_of_map_eq hnut hq
    exact ⟨w, hw, by rw [hwtype, hpps]⟩
  · intro h i s hs
    refine ⟨fun hsps => ?_, fun _ => trivial⟩
    obtain ⟨u, hu, htype⟩ := exists_of_map_eq hnut hs
    obtain ⟨w, hw, hwtype⟩ := h i u hu (by rw [htype, hsps])
    obtain ⟨q, hq, hpps⟩ := exists_of_map_eq hnut.symm hw
    obtain ⟨hlt, -⟩ := List.getElem?_eq_some_iff.1 hq
    exact ⟨by omega, hsps, q, hq, Option.some.inj (hpps.trans hwtype)⟩

/-- Frames of at most ten units are split exactly and every sequence parameter set is sent with a picture
    parameter set if and only if the only slice is the last unit, no unit is of a type that is skipped, and
    the two sets are next to each other. -/
theorem pairs_iff (us : NalUnits) : us.SplitExactly ∧ us.SendsPairs ↔ OneSlice us.units ∧ Paired us.units := by
  rw [← splitExactly_iff]
  refine and_congr_right fun hsplit => ?_
  have hone := (splitExactly_iff us).1 hsplit
  have hscan : Ends (getH264FrameSliceInfo us.toFrame) fun _ => True := by
    obtain ⟨info, hinfo, -⟩ := hsplit
    exact ⟨info, hinfo, trivial⟩
  obtain ⟨-, -, hroom, hmap⟩ := (ends_getH264FrameSliceInfo
    (R := fun l => l.map sliceExtent = (upToSlice (located startCode 4 us.units)).map unitExtent)).1 hsplit
  rw [← genuine_iff hroom (map_nut_slices hone hmap)]
  constructor
  · intro h
    exact (forall_ends_videoCalls.1 fun sent => h sent API_FRAME_TYPE_I).2
  · intro h sent type
    by_cases hI : type = API_FRAME_TYPE_I
    · rw [hI]
      exact forall_ends_videoCalls.2 ⟨hscan, h⟩ sent
    · rw [videoCalls, if_neg hI]
      split
      · exact ends_ok.2 (by simp [RtmpCall.Genuine])
      · exact ends_ok.2 (by simp)

/-- Enhancement information between the two parameter sets. -/
def seiBetween : NalUnits where
  units := [[0x67, 0x42, 0x00, 0x1f], [0x06, 0x01, 0x80], [0x68, 0xce, 0x38], [0x65, 0x88]]
  few := by decide
  whole := by
    have hne : ∀ u ∈ [[0x67, 0x42, 0x00, 0x1f], [0x06, 0x01, 0x80], [0x68, 0xce, 0x38], [0x65, 0x88]],
        u ≠ [] ∧ ¬ startCode.symbols <:+: u := by decide
    exact fun u hu => ⟨(hne u hu).1, (hne u hu).2⟩
  last := ⟨[0x65, 0x88], by decide, by decide⟩
  fits := by decide

/-- It is sent as the picture parameter set. -/
theorem sei_sent_as_pps : ¬ (seiBetween.SplitExactly ∧ seiBetween.SendsPairs) := by
  rintro ⟨-, hpairs⟩
  have hcalls : videoCalls seiBetween.toFrame (fun _ => 1) API_FRAME_TYPE_I =
      .ok (1, [.spsPps (some ⟨12, 3, .sei⟩) ⟨4, 4, .sps⟩, .video API_FRAME_TYPE_I 26 2]) := by
    decide
  obtain ⟨p, hp, hgenuine⟩ := hpairs (fun _ => 1) API_FRAME_TYPE_I
  rw [hcalls] at hp
  cases hp
  obtain ⟨-, s, hs, hpps⟩ := hgenuine _ List.mem_cons_self
  cases hs
  cases hpps

end SmartPlat.Rtmp
