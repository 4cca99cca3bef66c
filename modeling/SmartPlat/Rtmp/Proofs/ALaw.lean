import SmartPlat.Lib.Blocks
import SmartPlat.Rtmp.Coding
import Mathlib.Data.Fintype.Basic

set_option autoImplicit false

/-! # Decoding and encoding A-law

The two tables undo each other for all 256 bytes. But `g711a_decode` looks bytes up as `char`s, so that
those from 0x80 on, which stand for all sounds that are not negative, are read before the table. -/

namespace SmartPlat.Rtmp

open SmartPlat.Lib

variable {α β : Type} {f : α → Except Fault β} {g : α → β} {c : α → Prop} {R : β → Prop}
  {table : List α} {n room size : ℕ} {src : List α} {b : UInt8} {s : Int16}

/-! ## One sample -/

theorem ends_tableAt {P : α → Prop} (a : α) (h : n < table.length) :
    Ends (tableAt table n) P ↔ P (table.getD n a) := by
  simp [tableAt, h, ends_ok, List.getD_eq_getElem?_getD, show ¬ (n : ℤ) < 0 by omega]

/-- What a byte stands for. -/
def decoded (b : UInt8) : Int16 := alawtos16.getD b.toNat 0

/-- The byte for a sample. -/
def encoded (s : Int16) : UInt8 :=
  if 0 ≤ s.toInt then alawEncode.getD (s.toInt.toNat / 16) 0
  else 0x7F &&& alawEncode.getD ((-s.toInt).toNat / 16) 0

theorem length_alawtos16 : alawtos16.length = 256 := by decide +kernel

/-- The curve of the table: 32 steps of one sample, then segments of 16 steps, each twice as wide as the
    one before. -/
def alawCurve (n : ℕ) : ℕ :=
  if n < 32 then n ^^^ 0xD5
  else (16 * (Nat.log2 n - 4) + n >>> (Nat.log2 n - 4)) ^^^ 0xD5

/-- The last entry is off the curve. -/
theorem alawEncode_curve :
    alawEncode.map UInt8.toNat = (List.range 2048).map alawCurve ++ [0x2A] := by
  decide +kernel

theorem length_alawEncode : alawEncode.length = 2049 := by
  have hlen := congrArg List.length alawEncode_curve
  rwa [List.length_map, List.length_append, List.length_map, List.length_range] at hlen

theorem getD_alawEncode (h : n < 2048) : alawEncode.getD n 0 = UInt8.ofNat (alawCurve n) := by
  have hlen : n < alawEncode.length := by
    rw [length_alawEncode]
    omega
  have hcurve : n < ((List.range 2048).map alawCurve).length := by simpa using h
  have hget := congrArg (fun l => l[n]?) alawEncode_curve
  simp only [List.getElem?_append_left hcurve, List.getElem?_map, List.getElem?_range h,
    List.getElem?_eq_getElem hlen, Option.map_some, Option.some.injEq] at hget
  rw [← List.getElem_eq_getD (h := hlen), ← hget, UInt8.ofNat_toNat]

/-- The byte for a sample, by the curve. -/
def curveByte (s : Int16) : UInt8 :=
  if 0 ≤ s.toInt then UInt8.ofNat (alawCurve (s.toInt.toNat / 16))
  else 0x7F &&& UInt8.ofNat (alawCurve ((-s.toInt).toNat / 16))

theorem encoded_eq_curveByte (h : s.toInt.natAbs < 32768) : encoded s = curveByte s := by
  rw [encoded, curveByte, getD_alawEncode (by omega), getD_alawEncode (by omega)]

/-- **There and back.** -/
theorem encoded_decoded (b : UInt8) : encoded (decoded b) = b := by
  have hsmall : alawtos16.all (fun s => s.toInt.natAbs < 32768) = true := by decide +kernel
  have hback : alawtos16.map curveByte = (List.range 256).map UInt8.ofNat := by decide +kernel
  have hlt := b.toNat_lt
  have hlen : b.toNat < alawtos16.length := by
    rw [length_alawtos16]
    exact hlt
  have hget := congrArg (fun l => l[b.toNat]?) hback
  simp only [List.getElem?_map, List.getElem?_range hlt, List.getElem?_eq_getElem hlen, Option.map_some,
    Option.some.injEq, UInt8.ofNat_toNat] at hget
  rw [decoded, ← List.getElem_eq_getD (h := hlen),
    encoded_eq_curveByte (of_decide_eq_true (List.all_eq_true.1 hsmall _ (List.getElem_mem hlen))), hget]

/-- A byte from 0x80 on is a negative index. -/
theorem ends_decodeByte {P : Int16 → Prop} : Ends (decodeByte b) P ↔ b < 0x80 ∧ P (decoded b) := by
  have hlt := b.toNat_lt
  have hint : b.toInt8.toInt = if b.toNat < 128 then (b.toNat : ℤ) else b.toNat - 256 := by
    have hcond := BitVec.toInt_eq_toNat_cond (x := b.toBitVec)
    rw [UInt8.toNat_toBitVec] at hcond
    have hto : b.toInt8.toInt = b.toBitVec.toInt := rfl
    rw [hto, hcond]
    split <;> split <;> omega
  rw [decodeByte, hint, UInt8.lt_iff_toNat_lt]
  by_cases hsmall : b.toNat < 128
  · rw [if_pos hsmall, ends_tableAt 0 (by rw [length_alawtos16]; omega)]
    simp [hsmall, decoded]
  · rw [if_neg hsmall, tableAt, if_pos (by omega)]
    simp [hsmall]

theorem ends_encodeSample {P : UInt8 → Prop} : Ends (encodeSample s) P ↔ P (encoded s) := by
  have hlt := s.toInt_lt
  have hle := s.le_toInt
  rw [encodeSample, encoded]
  split
  · next hpos =>
      obtain ⟨n, hn⟩ := Int.eq_ofNat_of_zero_le hpos
      have hdiv : s.toInt.tdiv 16 = (n / 16 : ℕ) := by rw [hn]; rfl
      rw [hdiv, ends_tableAt 0 (by rw [length_alawEncode]; omega)]
      simp [hn]
  · next hneg =>
      obtain ⟨n, hn⟩ := Int.eq_ofNat_of_zero_le (show 0 ≤ -s.toInt by omega)
      have hdiv : s.toInt.tdiv (-16) = (n / 16 : ℕ) := by
        rw [Int.tdiv_neg, ← Int.neg_tdiv, hn]
        rfl
      rw [hdiv, ends_bind, ends_tableAt 0 (by rw [length_alawEncode]; omega)]
      simp [hn]

/-- The sign is the top bit, and it is set for what is not negative. -/
theorem encoded_lt_iff : encoded s < 0x80 ↔ s.toInt < 0 := by
  have hlt := s.toInt_lt
  have hall : (alawEncode.take 2048).all (fun b => 0x80 ≤ b) = true := by decide +kernel
  have htop : ∀ b ∈ alawEncode.take 2048, 0x80 ≤ b := fun b hb => of_decide_eq_true (List.all_eq_true.1 hall b hb)
  rw [encoded, UInt8.lt_iff_toNat_lt]
  split
  · next hpos =>
      refine iff_of_false ?_ (by omega)
      have hmem : alawEncode.getD (s.toInt.toNat / 16) 0 ∈ alawEncode.take 2048 := by
        have hk : s.toInt.toNat / 16 < (alawEncode.take 2048).length := by
          rw [List.length_take, length_alawEncode]
          omega
        have hget := List.getElem_mem hk
        rwa [List.getElem_take, @List.getElem_eq_getD _ _ _ _ 0] at hget
      have hge := UInt8.le_iff_toNat_le.1 (htop _ hmem)
      simp at hge ⊢
      omega
  · next hneg =>
      refine iff_of_true ?_ (by omega)
      rw [UInt8.toNat_and]
      exact Nat.lt_of_le_of_lt Nat.and_le_left (by decide)

/-! ## Buffers -/

/-- The loop ends when the elements are there, each can be coded and there is room for the result. -/
theorem ends_codeLoop (hf : ∀ a, ∀ P : β → Prop, Ends (f a) P ↔ c a ∧ P (g a)) {P : List β → Prop} :
    Ends (codeLoop f size n room src) P ↔
      (n ≤ src.length ∧ size * n ≤ room ∧ ∀ a ∈ src.take n, c a) ∧ P ((src.take n).map g) := by
  induction n generalizing room src P with
  | zero => simp [codeLoop]
  | succ n ih =>
      cases src with
      | nil => simp [codeLoop]
      | cons a src =>
          have hroom : ¬ room < size ∧ size * n ≤ room - size ↔ size * (n + 1) ≤ room := by
            rw [Nat.mul_succ]
            omega
          simp only [codeLoop, ends_bind, hf, ends_ite, not_ends_error, if_false_left, ih, ends_pure,
            List.length_cons, List.take_succ_cons, List.forall_mem_cons, List.map_cons, ← hroom,
            Nat.succ_le_succ_iff]
          tauto

/-- An `int` compared with an `unsigned int`. -/
theorem toNat_toUInt32 (x : Int32) :
    (x.toUInt32.toNat : ℤ) = if 0 ≤ x.toInt then x.toInt else x.toInt + 2 ^ 32 := by
  have hcond := BitVec.toInt_eq_toNat_cond (x := x.toBitVec)
  have hto : x.toBitVec.toInt = x.toInt := rfl
  have hnat : x.toBitVec.toNat = x.toUInt32.toNat := rfl
  have hlt := x.toUInt32.toNat_lt
  rw [hto, hnat] at hcond
  split at hcond <;> split <;> omega

theorem toInt_double (x : Int32) : (2 * x).toInt = (2 * x.toInt).bmod (2 ^ 32) := by
  rw [Int32.toInt_mul]
  rfl

theorem toInt_half (x : Int32) : (x / 2).toInt = x.toInt.tdiv 2 := by
  have hlt := x.toInt_lt
  have hle := x.le_toInt
  have habs : (x.toInt.tdiv 2).natAbs = x.toInt.natAbs / 2 := Int.natAbs_tdiv x.toInt 2
  rw [Int32.toInt_div]
  refine Int.bmod_eq_of_le ?_ ?_ <;> simp <;> omega

/-- When decoding ends, and with what. -/
theorem ends_g711aDecode {cap in_len : Int32} {alaw : List UInt8} {P : Int32 × List Int16 → Prop} :
    Ends (g711aDecode cap alaw in_len) P ↔
      if in_len = 0 then P (-1, [])
      else if cap < 2 * in_len then P (-2, [])
      else (0 < in_len.toInt ∧ in_len.toInt ≤ alaw.length ∧ 2 * in_len.toInt ≤ cap.toInt ∧
          ∀ b ∈ alaw.take in_len.toInt.toNat, b < 0x80) ∧
        P (2 * in_len, (alaw.take in_len.toInt.toNat).map decoded) := by
  have hcap := cap.toInt_lt
  have hlt := in_len.toInt_lt
  have hle := in_len.le_toInt
  have hcount := toNat_toUInt32 in_len
  simp only [g711aDecode, ends_ite, ends_ok, ends_bind, ends_pure,
    ends_codeLoop fun _ _ => ends_decodeByte]
  split
  · rfl
  next hne =>
  split
  · rfl
  have hne : in_len.toInt ≠ 0 := fun h => hne (Int32.toInt_inj.1 h)
  by_cases hpos : 0 < in_len.toInt
  · rw [if_pos hpos.le] at hcount
    have hnat : in_len.toUInt32.toNat = in_len.toInt.toNat := by omega
    rw [hnat]
    refine and_congr_left fun _ => ⟨?_, ?_⟩
    · rintro ⟨h, h', h''⟩
      exact ⟨hpos, by omega, by omega, h''⟩
    · rintro ⟨-, h, h', h''⟩
      exact ⟨by omega, by omega, h''⟩
  · -- the length counts as more than 2 ^ 31
    rw [if_neg (by omega)] at hcount
    refine iff_of_false ?_ fun h => hpos h.1.1
    rintro ⟨⟨-, h, -⟩, -⟩
    omega

/-- When encoding ends, and with what. -/
theorem ends_g711aEncode {cap in_len : Int32} {pcm : List Int16} {P : Int32 × List UInt8 → Prop} :
    Ends (g711aEncode cap pcm in_len) P ↔
      if in_len = 0 then P (-1, [])
      else if cap < in_len / 2 then P (-2, [])
      else (0 ≤ (in_len / 2).toInt ∧ (in_len / 2).toInt ≤ pcm.length) ∧
        P (in_len / 2, (pcm.take (in_len / 2).toInt.toNat).map encoded) := by
  have hcap := cap.toInt_lt
  have hlt := (in_len / 2).toInt_lt
  have hle := (in_len / 2).le_toInt
  have hcount := toNat_toUInt32 (in_len / 2)
  have hcode (s : Int16) (P : UInt8 → Prop) : Ends (encodeSample s) P ↔ True ∧ P (encoded s) := by
    rw [ends_encodeSample, true_and]
  simp only [g711aEncode, ends_ite, ends_ok, ends_bind, ends_pure, ends_codeLoop hcode]
  split
  · rfl
  split
  · rfl
  next hroom =>
  rw [Int32.lt_iff_toInt_lt] at hroom
  by_cases hpos : 0 ≤ (in_len / 2).toInt
  · rw [if_pos hpos] at hcount
    have hnat : (in_len / 2).toUInt32.toNat = (in_len / 2).toInt.toNat := by omega
    rw [hnat]
    refine and_congr_left fun _ => ⟨?_, ?_⟩
    · rintro ⟨h, -⟩
      exact ⟨hpos, by omega⟩
    · rintro ⟨-, h⟩
      exact ⟨by omega, by omega, fun _ _ => trivial⟩
  · rw [if_neg hpos] at hcount
    refine iff_of_false ?_ fun h => hpos h.1.1
    rintro ⟨⟨-, h, -⟩, -⟩
    omega

/-! ## The codec -/

/-- A call fails without writing, or keeps inside its buffers and tables. -/
def Contained {γ : Type} (x : Except Fault (Int32 × List γ)) : Prop :=
  Ends x fun r => r.1 < 0 → r.2 = []

/-- Decoded and encoded again, in buffers of any capacity, bytes are the same. -/
def Reencodes (alaw : List UInt8) : Prop :=
  ∀ cap cap', Ends (g711aDecode cap alaw (.ofNat alaw.length)) fun r => 0 ≤ r.1 →
    Ends (g711aEncode cap' r.2 r.1) fun r' => 0 ≤ r'.1 → r'.2 = alaw

/-- Encoded, decoded and encoded again, samples give the same bytes as encoded once. -/
def EncodeStable (pcm : List Int16) : Prop :=
  ∀ cap cap' cap'', Ends (g711aEncode cap pcm (.ofNat (2 * pcm.length))) fun r => 0 ≤ r.1 →
    Ends (g711aDecode cap' r.2 r.1) fun r' => 0 ≤ r'.1 →
      Ends (g711aEncode cap'' r'.2 r'.1) fun r'' => 0 ≤ r''.1 → r''.2 = r.2

/-- `g711a_decode` refuses its arguments, or the input and the output are as long as it believes and no
    byte that it reads is from 0x80 on. -/
def Decodable (cap : Int32) (alaw : List UInt8) (in_len : Int32) : Prop :=
  in_len = 0 ∨ cap < 2 * in_len ∨
    0 < in_len.toInt ∧ in_len.toInt ≤ alaw.length ∧ 2 * in_len.toInt ≤ cap.toInt ∧
      ∀ b ∈ alaw.take in_len.toInt.toNat, b < 0x80

/-- `g711a_encode` refuses its arguments, or the input is as long as it believes. -/
def Encodable (cap : Int32) (pcm : List Int16) (in_len : Int32) : Prop :=
  in_len = 0 ∨ cap < in_len / 2 ∨ 0 ≤ (in_len / 2).toInt ∧ (in_len / 2).toInt ≤ pcm.length

variable {cap in_len : Int32} {alaw : List UInt8} {pcm : List Int16}

theorem contained_decode_iff : Contained (g711aDecode cap alaw in_len) ↔ Decodable cap alaw in_len := by
  rw [Contained, ends_g711aDecode, Decodable]
  split
  · next h => simp [h]
  next hne =>
  split
  · next hroom => simp [hroom]
  next hroom =>
  rw [or_iff_right hne, or_iff_right hroom, and_iff_left_iff_imp]
  rintro ⟨hpos, -, hcap, -⟩ hneg
  have hlt := cap.toInt_lt
  rw [Int32.lt_iff_toInt_lt, toInt_double, Int.bmod_eq_of_le (by omega) (by omega),
    Int32.toInt_zero] at hneg
  omega

theorem contained_encode_iff : Contained (g711aEncode cap pcm in_len) ↔ Encodable cap pcm in_len := by
  rw [Contained, ends_g711aEncode, Encodable]
  split
  · next h => simp [h]
  next hne =>
  split
  · next hroom => simp [hroom]
  next hroom =>
  rw [or_iff_right hne, or_iff_right hroom, and_iff_left_iff_imp]
  rintro ⟨hpos, -⟩ hneg
  rw [Int32.lt_iff_toInt_lt, Int32.toInt_zero] at hneg
  exact absurd hneg (Int.not_lt.2 hpos)

theorem toInt_ofNat {n : ℕ} (h : n < 2 ^ 31) : (Int32.ofNat n).toInt = n := Int32.toInt_ofNat_of_lt h

theorem ofNat_ne_zero {n : ℕ} (h : n < 2 ^ 31) (hn : n ≠ 0) : Int32.ofNat n ≠ 0 := by
  intro h0
  have hint := congrArg Int32.toInt h0
  rw [toInt_ofNat h, Int32.toInt_zero] at hint
  omega

theorem double_ofNat {n : ℕ} (h : n < 2 ^ 30) : 2 * Int32.ofNat n = Int32.ofNat (2 * n) := by
  rw [← Int32.toInt_inj, toInt_double, toInt_ofNat (by omega), toInt_ofNat (by omega)]
  exact Int.bmod_eq_of_le (by omega) (by omega)

theorem half_ofNat {n : ℕ} (h : n < 2 ^ 30) : Int32.ofNat (2 * n) / 2 = Int32.ofNat n := by
  rw [← Int32.toInt_inj, toInt_half, toInt_ofNat (by omega), toInt_ofNat (by omega)]
  exact Int.mul_tdiv_cancel_left n (by decide : (2 : ℤ) ≠ 0)

/-- Decoding all of a buffer. -/
theorem ends_decode_all (hlen : alaw.length < 2 ^ 30) {P : Int32 × List Int16 → Prop} :
    Ends (g711aDecode cap alaw (.ofNat alaw.length)) P ↔
      if alaw = [] then P (-1, [])
      else if cap < .ofNat (2 * alaw.length) then P (-2, [])
      else (∀ b ∈ alaw, b < 0x80) ∧ P (.ofNat (2 * alaw.length), alaw.map decoded) := by
  rw [ends_g711aDecode, double_ofNat hlen, toInt_ofNat (by omega)]
  by_cases hnil : alaw = []
  · subst hnil
    simp
  have hpos : 0 < alaw.length := List.length_pos_iff.2 hnil
  rw [if_neg (ofNat_ne_zero (by omega) (by omega)), if_neg hnil]
  split
  · rfl
  next hroom =>
  rw [Int32.lt_iff_toInt_lt, toInt_ofNat (by omega)] at hroom
  rw [Int.toNat_natCast, List.take_length]
  refine and_congr_left fun _ => ⟨fun h => h.2.2.2, fun h => ⟨?_, ?_, ?_, h⟩⟩ <;> omega

/-- Encoding all of a buffer. -/
theorem ends_encode_all (hlen : pcm.length < 2 ^ 30) {P : Int32 × List UInt8 → Prop} :
    Ends (g711aEncode cap pcm (.ofNat (2 * pcm.length))) P ↔
      if pcm = [] then P (-1, [])
      else if cap < .ofNat pcm.length then P (-2, [])
      else P (.ofNat pcm.length, pcm.map encoded) := by
  rw [ends_g711aEncode, half_ofNat hlen, toInt_ofNat (by omega)]
  by_cases hnil : pcm = []
  · subst hnil
    simp
  have hpos : 0 < pcm.length := List.length_pos_iff.2 hnil
  rw [if_neg (ofNat_ne_zero (by omega) (by omega)), if_neg hnil]
  split
  · rfl
  · rw [Int.toNat_natCast, List.take_length]
    exact and_iff_right ⟨by omega, le_rfl⟩

theorem not_nonneg {x : Int32} (h : x = -1 ∨ x = -2) : ¬ 0 ≤ x := by
  rcases h with rfl | rfl <;> decide

theorem reencodes_iff (hlen : alaw.length < 2 ^ 31) :
    Reencodes alaw ↔ alaw = [] ∨ alaw.length < 2 ^ 30 ∧ ∀ b ∈ alaw, b < 0x80 := by
  by_cases hnil : alaw = []
  · subst hnil
    refine iff_of_true (fun cap cap' => ?_) (.inl rfl)
    rw [ends_decode_all (by simp), if_pos rfl]
    exact fun h => absurd h (not_nonneg (.inl rfl))
  rw [or_iff_right hnil]
  have hpos : 0 < alaw.length := List.length_pos_iff.2 hnil
  by_cases hhalf : alaw.length < 2 ^ 30
  · rw [and_iff_right hhalf]
    constructor
    · intro h
      have hdecode := h (.ofNat (2 * alaw.length)) 0
      rw [ends_decode_all hhalf, if_neg hnil, if_neg (Int32.lt_irrefl)] at hdecode
      exact hdecode.1
    · intro hbytes cap cap'
      rw [ends_decode_all hhalf, if_neg hnil]
      split
      · exact fun h => absurd h (not_nonneg (.inr rfl))
      refine ⟨hbytes, fun _ => ?_⟩
      have hencode := @ends_encode_all cap' (alaw.map decoded) (by simpa using hhalf)
        fun r' => 0 ≤ r'.1 → r'.2 = alaw
      rw [List.length_map] at hencode
      rw [hencode, if_neg (by simpa using hnil)]
      split
      · exact fun h => absurd h (not_nonneg (.inr rfl))
      · intro _
        simp [List.map_map, Function.comp_def, encoded_decoded]
  · -- twice the length is negative as an `int`, so that the capacity is not compared with it
    refine iff_of_false (fun h => ?_) fun h => hhalf h.1
    have hdecode := h 0 0
    rw [ends_g711aDecode, if_neg (ofNat_ne_zero hlen (by omega)), toInt_ofNat hlen] at hdecode
    split at hdecode
    · next hroom =>
        rw [Int32.lt_iff_toInt_lt, toInt_double, toInt_ofNat hlen, Int32.toInt_zero, Int.bmod_def] at hroom
        split at hroom <;> omega
    · have hcap := hdecode.1.2.2.1
      rw [Int32.toInt_zero] at hcap
      omega

theorem encodeStable_iff (hlen : 2 * pcm.length < 2 ^ 31) :
    EncodeStable pcm ↔ ∀ s ∈ pcm, s < 0 := by
  have hhalf : pcm.length < 2 ^ 30 := by omega
  have hlen' : (pcm.map encoded).length < 2 ^ 30 := by simpa using hhalf
  have hneg (s : Int16) : encoded s < 0x80 ↔ s < 0 := by
    rw [encoded_lt_iff, Int16.lt_iff_toInt_lt, Int16.toInt_zero]
  by_cases hnil : pcm = []
  · subst hnil
    refine iff_of_true (fun cap cap' cap'' => ?_) (by simp)
    rw [ends_encode_all (by simp), if_pos rfl]
    exact fun h => absurd h (not_nonneg (.inl rfl))
  have hnil' : pcm.map encoded ≠ [] := by simpa using hnil
  constructor
  · intro h
    have hencode := h (.ofNat pcm.length) (.ofNat (2 * pcm.length)) 0
    rw [ends_encode_all hhalf, if_neg hnil, if_neg (Int32.lt_irrefl)] at hencode
    have hdecode := hencode (by rw [Int32.le_iff_toInt_le, toInt_ofNat (by omega), Int32.toInt_zero]; omega)
    have hall := @ends_decode_all (.ofNat (2 * pcm.length)) _ hlen' fun r' => 0 ≤ r'.1 →
      Ends (g711aEncode 0 r'.2 r'.1) fun r'' => 0 ≤ r''.1 → r''.2 = pcm.map encoded
    rw [List.length_map, if_neg hnil', if_neg (Int32.lt_irrefl)] at hall
    simpa [hneg] using (hall.1 hdecode).1
  · intro hsamples cap cap' cap''
    rw [ends_encode_all hhalf, if_neg hnil]
    split
    · exact fun h => absurd h (not_nonneg (.inr rfl))
    intro _
    have hall := (@reencodes_iff (pcm.map encoded) (by omega)).2
      (.inr ⟨hlen', by simpa [hneg] using hsamples⟩) cap' cap''
    rwa [List.length_map] at hall

/-- **When the codec is safe and its directions undo each other.** For every buffer of bytes and of
    samples, every claimed length and every capacity: when each call refuses its arguments or is told
    lengths that are there, and no byte from 0x80 on is decoded, which is the code of every sample that
    is not negative. -/
theorem codec_iff (halaw : alaw.length < 2 ^ 31) (hpcm : 2 * pcm.length < 2 ^ 31) :
    (Contained (g711aDecode cap alaw in_len) ∧ Contained (g711aEncode cap pcm in_len) ∧
        Reencodes alaw ∧ EncodeStable pcm) ↔
      Decodable cap alaw in_len ∧ Encodable cap pcm in_len ∧
        (alaw = [] ∨ alaw.length < 2 ^ 30 ∧ ∀ b ∈ alaw, b < 0x80) ∧ ∀ s ∈ pcm, s < 0 := by
  rw [contained_decode_iff, contained_encode_iff, reencodes_iff halaw, encodeStable_iff hpcm]

/-- The softest negative sample. -/
theorem codec_negative : Contained (g711aDecode 4 [0x55] 1) ∧ Contained (g711aEncode 4 [-8] 1) ∧
    Reencodes [0x55] ∧ EncodeStable [-8] := by
  have hbytes : ∀ b ∈ [0x55], b < (0x80 : UInt8) := List.forall_mem_singleton.2 (by decide)
  have hsamples : ∀ s ∈ [-8], s < (0 : Int16) := List.forall_mem_singleton.2 (by decide)
  exact (codec_iff (by decide) (by decide)).2
    ⟨.inr (.inr ⟨by decide, by decide, by decide, hbytes⟩), .inr (.inr ⟨by decide, by decide⟩),
      .inr ⟨by decide, hbytes⟩, hsamples⟩

/-- Silence is not decoded. -/
theorem silence_not_decoded :
    g711aDecode 2 [0xD5] 1 = .error .badAccess ∧ ¬ Contained (g711aDecode 2 [0xD5] 1) := by
  have hrun : g711aDecode 2 [0xD5] 1 = .error .badAccess := by decide
  exact ⟨hrun, by rw [Contained, hrun]; exact not_ends_error⟩

end SmartPlat.Rtmp
