import SmartPlat.Lib.Blocks
import SmartPlat.Rtmp.VideoPackets

set_option autoImplicit false

/-! # What `GetH264FrameSliceInfo` finds

The outer loop stays inside a frame of four bytes or more. The inner one does when there is a next start
code, and the table is as large as what is stored when that is ten slices at most. -/

namespace SmartPlat.Rtmp

open SmartPlat.Lib

variable {frame : VideoFrame} {info : H264FrameSliceInfo}

/-! ## Start codes -/

/-- The comparison ends at the first difference, and else where one of the two is over. -/
theorem startsWith_eq (pattern data : List UInt8) :
    startsWith pattern data =
      if pattern <+: data then .ok true
      else if data <+: pattern then .error .badAccess else .ok false := by
  induction pattern generalizing data with
  | nil => simp [startsWith]
  | cons c pattern ih =>
      cases data with
      | nil => simp [startsWith]
      | cons b data =>
          by_cases hbc : b = c
          · subst hbc
            simp [startsWith, ih]
          · have hcb : ¬ c = b := fun h => hbc h.symm
            simp [startsWith, hbc, hcb]

theorem startCode_length : startCode.symbols.length = 4 := rfl

theorem findStartPlace_of_begins {data : List UInt8} (h : startCode.symbols <+: data) :
    findStartPlace data = .ok true := by
  rw [findStartPlace, startsWith_eq, if_pos h]

theorem findStartPlace_of_not {data : List UInt8} (h : ¬ startCode.symbols <+: data)
    (hlen : 4 ≤ data.length) : findStartPlace data = .ok false := by
  have hshort : ¬ data <+: startCode.symbols := fun hpre => h (hpre.eq_of_length_le hlen ▸ List.prefix_rfl)
  rw [findStartPlace, startsWith_eq, if_neg h, if_neg hshort]

theorem findStartPlace_short (data : List UInt8) (h : data.length < 4) :
    findStartPlace data = .error .badAccess ∨ findStartPlace data = .ok false := by
  have hnot : ¬ startCode.symbols <+: data := fun hpre => absurd hpre.length_le (Nat.not_le_of_lt h)
  rw [findStartPlace, startsWith_eq, if_neg hnot]
  split
  · exact .inl rfl
  · exact .inr rfl

/-- The inner loop stops at the next start code, and without one behind the frame. -/
theorem sliceEnd_eq (n : ℕ) (data : List UInt8) :
    sliceEnd n data = match cut startCode data with
      | none => .error .badAccess
      | some p => .ok (n + p.1.length) := by
  induction data generalizing n with
  | nil => rfl
  | cons b data ih =>
      by_cases hpre : startCode.symbols <+: b :: data
      · rw [sliceEnd, findStartPlace_of_begins hpre, cut_of_begins hpre]
        rfl
      · have hnext := ih (n + 1)
        rw [sliceEnd, cut_cons hpre]
        rcases Nat.lt_or_ge (b :: data).length 4 with hlt | hge
        · have hcut : cut startCode data = none := cut_eq_none.2 fun hin =>
            absurd hin.length_le (by simp [startCode] at hlt ⊢; omega)
          rcases findStartPlace_short _ hlt with herr | hfalse
          · simp [herr, hcut]
          · simp only [hfalse, hnext, hcut, Option.map_none]
        · simp only [findStartPlace_of_not hpre hge, hnext]
          cases cut startCode data with
          | none => rfl
          | some p => simp [Nat.add_assoc, Nat.add_comm 1]

/-! ## The table -/

/-- Slices are stored one behind the other. -/
def H264FrameSliceInfo.storeAll (info : H264FrameSliceInfo) (slices : List SliceInfo) :
    Except Fault H264FrameSliceInfo :=
  slices.foldlM H264FrameSliceInfo.store info

theorem storeAll_nil : info.storeAll [] = .ok info := rfl

theorem storeAll_cons (s : SliceInfo) (slices : List SliceInfo) :
    info.storeAll (s :: slices) = info.store s >>= fun info => info.storeAll slices := by
  rw [H264FrameSliceInfo.storeAll, List.foldlM_cons]
  rfl

theorem storeAll_singleton (s : SliceInfo) : info.storeAll [s] = info.store s := by
  simp [H264FrameSliceInfo.storeAll]

theorem ends_store {R : List SliceInfo → Prop} (s : SliceInfo) :
    (Ends (info.store s) fun r => R r.Sliceinfo) ↔
      info.Sliceinfo.length < 10 ∧ R (info.Sliceinfo ++ [s]) := by
  rw [H264FrameSliceInfo.store]
  split
  · next h => simp [h]
  · next h => simp [h]

/-- A fault behind it is the same as the one it can have itself. -/
theorem store_fault (s : SliceInfo) :
    (info.store s >>= fun _ => .error .badAccess) = (.error .badAccess : Except Fault H264FrameSliceInfo) := by
  rw [H264FrameSliceInfo.store]
  split
  · rfl
  · rfl

/-- All of them find room when there are at most ten. -/
theorem ends_storeAll {R : List SliceInfo → Prop} (slices : List SliceInfo) :
    (Ends (info.storeAll slices) fun r => R r.Sliceinfo) ↔
      info.Sliceinfo.length + slices.length ≤ 10 ∧ R (info.Sliceinfo ++ slices) := by
  induction slices generalizing info with
  | nil => simp [storeAll_nil, info.room]
  | cons s slices ih =>
      simp only [storeAll_cons, ends_bind, ih]
      rw [ends_store (R := fun l => l.length + slices.length ≤ 10 ∧ R (l ++ slices))]
      simp only [List.length_append, List.append_assoc, List.singleton_append, List.length_cons,
        List.length_nil]
      constructor
      · rintro ⟨-, hroom, hR⟩
        exact ⟨by omega, hR⟩
      · rintro ⟨hroom, hR⟩
        exact ⟨by omega, by omega, hR⟩

/-! ## The units of a frame -/

/-- The branch for a unit; none for one without a header. -/
def contentCase (u : List UInt8) : SliceCase := u.head?.elim .skipped sliceCase

/-- The slices of a frame that has these units. -/
def slices (Datalen : ℕ) : List (Piece UInt8) → List SliceInfo
  | [] => []
  | u :: us =>
      match contentCase u.content with
      | .rest nut => [⟨u.start, Datalen - u.start, nut⟩]
      | .scanned nut => ⟨u.start, u.content.length, nut⟩ :: slices Datalen us
      | .skipped => slices Datalen us

/-- The units that have one of these slices. -/
def stored : List (Piece UInt8) → List (Piece UInt8)
  | [] => []
  | u :: us =>
      match contentCase u.content with
      | .rest _ => [u]
      | .scanned _ => u :: stored us
      | .skipped => stored us

theorem length_slices (Datalen : ℕ) (us : List (Piece UInt8)) :
    (slices Datalen us).length = (stored us).length := by
  induction us with
  | nil => rfl
  | cons u us ih =>
      rw [slices, stored]
      split <;> simp [ih]

/-- A unit follows each one that ends with the next start code, up to the one that is the rest. -/
def Closed : List (Piece UInt8) → Prop
  | [] => True
  | u :: us =>
      match contentCase u.content with
      | .rest _ => True
      | .scanned _ => us ≠ [] ∧ Closed us
      | .skipped => Closed us

instance decidableClosed : (us : List (Piece UInt8)) → Decidable (Closed us)
  | [] => isTrue trivial
  | u :: us =>
      have := decidableClosed us
      match h : contentCase u.content with
      | .rest _ => isTrue (by rw [Closed, h]; trivial)
      | .scanned _ => decidable_of_iff (us ≠ [] ∧ Closed us) (by rw [Closed, h])
      | .skipped => decidable_of_iff (Closed us) (by rw [Closed, h])

/-- The table with the slices of these units. -/
def H264FrameSliceInfo.storeUnits (info : H264FrameSliceInfo) (Datalen : ℕ) (us : List (Piece UInt8)) :
    Except Fault H264FrameSliceInfo :=
  if Closed us then info.storeAll (slices Datalen us) else .error .badAccess

/-- The units of a frame, at their places. -/
def VideoFrame.units (frame : VideoFrame) : List (Piece UInt8) := marked startCode 0 frame.bytes

variable {Datalen start : ℕ} {b : UInt8} {x : List UInt8} {nut : NalUnitType} {us : List (Piece UInt8)}

theorem slices_rest (h : sliceCase b = .rest nut) :
    slices Datalen (⟨start, b :: x⟩ :: us) = [⟨start, Datalen - start, nut⟩] := by
  simp [slices, contentCase, h]

theorem slices_scanned (h : sliceCase b = .scanned nut) :
    slices Datalen (⟨start, b :: x⟩ :: us) = ⟨start, (b :: x).length, nut⟩ :: slices Datalen us := by
  simp [slices, contentCase, h]

theorem slices_skipped (h : sliceCase b = .skipped) :
    slices Datalen (⟨start, b :: x⟩ :: us) = slices Datalen us := by
  simp [slices, contentCase, h]

theorem closed_rest (h : sliceCase b = .rest nut) : Closed (⟨start, b :: x⟩ :: us) := by
  simp [Closed, contentCase, h]

theorem closed_scanned (h : sliceCase b = .scanned nut) :
    Closed (⟨start, b :: x⟩ :: us) ↔ us ≠ [] ∧ Closed us := by
  simp [Closed, contentCase, h]

theorem closed_skipped (h : sliceCase b = .skipped) : Closed (⟨start, b :: x⟩ :: us) ↔ Closed us := by
  simp [Closed, contentCase, h]

theorem storeUnits_rest (h : sliceCase b = .rest nut) :
    info.storeUnits Datalen (⟨start, b :: x⟩ :: us) = info.store ⟨start, Datalen - start, nut⟩ := by
  rw [H264FrameSliceInfo.storeUnits, if_pos (closed_rest h), slices_rest h, storeAll_singleton]

theorem storeUnits_open (h : sliceCase b = .scanned nut) :
    info.storeUnits Datalen [⟨start, b :: x⟩] = .error .badAccess := by
  simp [H264FrameSliceInfo.storeUnits, closed_scanned h]

theorem storeUnits_scanned (h : sliceCase b = .scanned nut) (x : List UInt8) (hus : us ≠ []) :
    info.storeUnits Datalen (⟨start, b :: x⟩ :: us) =
      info.store ⟨start, (b :: x).length, nut⟩ >>= fun info => info.storeUnits Datalen us := by
  by_cases hclosed : Closed us
  · simp [H264FrameSliceInfo.storeUnits, closed_scanned h, slices_scanned h, hus, hclosed, storeAll_cons]
  · simp [H264FrameSliceInfo.storeUnits, closed_scanned h, hclosed, store_fault]

theorem storeUnits_skipped (h : sliceCase b = .skipped) :
    info.storeUnits Datalen (⟨start, b :: x⟩ :: us) = info.storeUnits Datalen us := by
  simp [H264FrameSliceInfo.storeUnits, closed_skipped h, slices_skipped h]

/-- Nothing is stored of units without content. -/
theorem storeUnits_of_empty (h : ∀ p ∈ us, p.content = []) : info.storeUnits Datalen us = .ok info := by
  induction us with
  | nil => rfl
  | cons u us ih =>
      obtain ⟨start, content⟩ := u
      obtain ⟨hu, hus⟩ := List.forall_mem_cons.1 h
      cases hu
      rw [← ih hus, H264FrameSliceInfo.storeUnits, H264FrameSliceInfo.storeUnits]
      exact if_congr Iff.rfl rfl rfl

/-! ## The outer loop -/

theorem less4_of_ge (h : 4 ≤ frame.Datalen) : frame.less4 = frame.Datalen - 4 := by
  have hfits : frame.Datalen < 2 ^ 32 := frame.fits
  rw [VideoFrame.less4]
  omega

theorem less4_of_lt (h : frame.Datalen < 4) : frame.less4 = frame.Datalen + (2 ^ 32 - 4) := by
  rw [VideoFrame.less4]
  omega

/-- A header with a slice of its own is not the beginning of a start code. -/
theorem header_ne_zero {b : UInt8} {nut : NalUnitType} (h : sliceCase b = .scanned nut) : b ≠ 0 := by
  rintro rfl
  have hzero : sliceCase 0 = .skipped := by decide
  rw [hzero] at h
  cases h

theorem not_prefix_of_header {b : UInt8} (h : b ≠ 0) (s : List UInt8) :
    ¬ startCode.symbols <+: b :: s := fun hpre =>
  h (List.cons_prefix_cons.1 hpre).1.symm

theorem exists_behind {s : List UInt8} (h : startCode.symbols <+: s) (hlen : 4 < s.length) :
    ∃ b t, s = startCode.symbols ++ b :: t := by
  obtain ⟨r, rfl⟩ := h
  cases r with
  | nil => simp [startCode] at hlen
  | cons b t => exact ⟨b, t, rfl⟩

/-- A scanned unit ends at the next start code, where the next unit is found. -/
theorem units_from_next {place : ℕ} {t r : List UInt8} (hheader : frame.bytes.drop place = b :: t)
    (hcut : cut startCode t = some (x, r)) :
    place + (b :: x).length ≤ frame.Datalen ∧
      marked startCode (place + (b :: x).length) (frame.bytes.drop (place + (b :: x).length)) =
        marked startCode (place + 1) t := by
  have ht := eq_of_cut hcut
  have hlen : frame.Datalen - place = (b :: t).length := by
    rw [← hheader, List.length_drop, VideoFrame.Datalen]
  have htlen := congrArg List.length ht
  simp only [List.length_append, List.length_cons] at hlen htlen
  refine ⟨by simp only [List.length_cons]; omega, ?_⟩
  have hnext : frame.bytes.drop (place + (b :: x).length) = startCode.symbols ++ r := by
    rw [← List.drop_drop, hheader, ht, ← List.cons_append, List.drop_left]
  rw [hnext, ← marked_behind hcut, List.length_cons, Nat.add_right_comm, Nat.add_assoc place x.length]

/-- Each round deals with one unit, or passes over a byte before the first start code. -/
theorem sliceLoop_eq (hlen : 4 ≤ frame.Datalen) {fuel DataPlace : ℕ}
    (hplace : DataPlace ≤ frame.Datalen) (hfuel : frame.Datalen < DataPlace + fuel) :
    sliceLoop frame fuel DataPlace info =
      info.storeUnits frame.Datalen (marked startCode DataPlace (frame.bytes.drop DataPlace)) := by
  induction fuel generalizing DataPlace info with
  | zero => omega
  | succ fuel ih =>
      have hdrop : (frame.bytes.drop DataPlace).length = frame.Datalen - DataPlace := List.length_drop
      rw [sliceLoop, less4_of_ge hlen]
      by_cases hguard : DataPlace < frame.Datalen - 4
      · rw [if_pos hguard]
        by_cases hpre : startCode.symbols <+: frame.bytes.drop DataPlace
        · obtain ⟨b, t, hdata⟩ := exists_behind hpre (by omega)
          have hheader : frame.bytes.drop (DataPlace + 4) = b :: t := by
            rw [← List.drop_drop, hdata]
            rfl
          have hbehind : frame.bytes.drop (DataPlace + 4 + 1) = t := by
            rw [← List.drop_drop, hheader]
            rfl
          have hb : frame.bytes[DataPlace + 4]? = some b := by
            rw [← List.head?_drop, hheader, List.head?_cons]
          rw [findStartPlace_of_begins hpre, hdata, marked_piece, startCode_length]
          simp only [bind, Except.bind, if_true, hb]
          cases hcase : sliceCase b with
          | rest nut => rw [storeUnits_rest hcase]
          | scanned nut =>
              have hcut_header := cut_cons (not_prefix_of_header (header_ne_zero hcase) t)
              simp only [hheader, sliceEnd_eq, hcut_header]
              cases hcut : cut startCode t with
              | none => rw [marked_of_none hcut, storeUnits_open hcase]; rfl
              | some p =>
                  obtain ⟨x, r⟩ := p
                  obtain ⟨hend, hunits⟩ := units_from_next hheader hcut
                  have hround := fun info => @ih info (DataPlace + 4 + (b :: x).length) hend (by simp; omega)
                  simp only [hunits] at hround
                  simp only [Option.map_some, Option.getD_some, Nat.zero_add, hround]
                  exact (storeUnits_scanned hcase x (by rw [ne_eq, marked_eq_nil, hcut]; simp)).symm
          | skipped =>
              rw [storeUnits_skipped hcase, ← hbehind]
              exact ih (by omega) (by omega)
        · have hskip : marked startCode DataPlace (frame.bytes.drop DataPlace) =
              marked startCode (DataPlace + 1) (frame.bytes.drop (DataPlace + 1)) := by
            obtain ⟨b, s, hdata⟩ := List.exists_cons_of_length_pos (l := frame.bytes.drop DataPlace) (by omega)
            rw [← List.drop_drop, hdata, marked_cons (hdata ▸ hpre), List.drop_succ_cons, List.drop_zero]
          rw [findStartPlace_of_not hpre (by omega), hskip]
          exact ih (by omega) (by omega)
      · rw [if_neg hguard, storeUnits_of_empty]
        exact fun p hp => content_of_short (by rw [hdrop]; simp [startCode]; omega) hp

/-- In a frame that is too short, the bound of the loop is behind it, and no start code stops it before. -/
theorem sliceLoop_short (hshort : frame.Datalen < 4) {fuel DataPlace : ℕ}
    (hplace : DataPlace ≤ frame.Datalen) (hfuel : frame.Datalen < DataPlace + fuel) :
    sliceLoop frame fuel DataPlace info = .error .badAccess := by
  induction fuel generalizing DataPlace with
  | zero => omega
  | succ fuel ih =>
      rw [sliceLoop, less4_of_lt hshort, if_pos (by omega)]
      have hdrop : (frame.bytes.drop DataPlace).length = frame.Datalen - DataPlace := List.length_drop
      rcases Nat.eq_or_lt_of_le hplace with hend | hlt
      · rw [List.eq_nil_of_length_eq_zero (l := frame.bytes.drop DataPlace) (by omega)]
        rfl
      · rcases findStartPlace_short (frame.bytes.drop DataPlace) (by omega) with herr | hfalse
        · rw [herr]
          rfl
        · rw [hfalse]
          exact ih hlt (by omega)

/-- All there is to `GetH264FrameSliceInfo`. No frame keeps the loops going. -/
theorem getH264FrameSliceInfo_eq (frame : VideoFrame) :
    getH264FrameSliceInfo frame =
      if 4 ≤ frame.Datalen then H264FrameSliceInfo.zero.storeUnits frame.Datalen frame.units
      else .error .badAccess := by
  rw [getH264FrameSliceInfo]
  split
  · next hlen => rw [sliceLoop_eq hlen (Nat.zero_le _) (by omega), List.drop_zero, VideoFrame.units]
  · next hlen => exact sliceLoop_short (Nat.lt_of_not_le hlen) (Nat.zero_le _) (by omega)

theorem ends_getH264FrameSliceInfo {R : List SliceInfo → Prop} :
    (Ends (getH264FrameSliceInfo frame) fun info => R info.Sliceinfo) ↔
      4 ≤ frame.Datalen ∧ Closed frame.units ∧ (slices frame.Datalen frame.units).length ≤ 10 ∧
        R (slices frame.Datalen frame.units) := by
  rw [getH264FrameSliceInfo_eq, H264FrameSliceInfo.storeUnits]
  split
  · next hlen =>
      split
      · next hclosed => simp [ends_storeAll, hlen, hclosed, H264FrameSliceInfo.zero]
      · next hopen => simp [hopen]
  · next hlen => simp [hlen]

/-- `GetH264FrameSliceInfo` stays inside the frame and the table exactly when the frame has four bytes, a
    start code follows each unit that ends with one, and ten units at most have a slice. -/
theorem scan_iff (frame : VideoFrame) :
    (Ends (getH264FrameSliceInfo frame) fun _ => True) ↔
      4 ≤ frame.Datalen ∧ Closed frame.units ∧ (stored frame.units).length ≤ 10 := by
  rw [ends_getH264FrameSliceInfo (R := fun _ => True), length_slices]
  simp

/-- A frame that ends with its sequence parameter set. -/
theorem scan_leaves_frame :
    ¬ Ends (getH264FrameSliceInfo ⟨[0x00, 0x00, 0x00, 0x01, 0x67, 0x42, 0x00, 0x1f], by decide⟩) fun _ => True :=
  not_ends_error

end SmartPlat.Rtmp
