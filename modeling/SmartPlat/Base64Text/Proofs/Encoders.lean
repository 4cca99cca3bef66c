import SmartPlat.Base64Text.Codec
import Mathlib.Data.List.Basic

set_option autoImplicit false

/-! # The two encoders

Both write the encoding of the bytes and a NUL: the first by recursion over groups of three, the second
group by group into its memory, where the invariant is what stands there after the first groups. -/

namespace SmartPlat.Base64Text

open SmartPlat.Lib

variable {x s t : List UInt8} {m : ℕ → UInt8} {n i : ℕ} {inlen : Int32} {origLength : UInt32}

/-! ## Sextets -/

theorem charAt_eq (k : ℕ) : charAt k = Base64.symbol k := rfl

theorem shiftRight_eq (a : ℕ) : a >>> 2 = a / 4 ∧ a >>> 4 = a / 16 ∧ a >>> 6 = a / 64 :=
  ⟨Nat.shiftRight_eq_div_pow a 2, Nat.shiftRight_eq_div_pow a 4, Nat.shiftRight_eq_div_pow a 6⟩

theorem shiftLeft_or {a b : ℕ} (k : ℕ) (hb : b < 2 ^ k) : a <<< k ||| b = a * 2 ^ k + b := by
  rw [Nat.shiftLeft_eq, Nat.mul_comm]
  exact (Nat.two_pow_add_eq_or_of_lt hb a).symm

/-- The bits of two bytes, side by side. -/
theorem joined_eq {a b : ℕ} (hb : b < 256) :
    a <<< 4 ||| b / 16 = a * 16 + b / 16 ∧ a <<< 2 ||| b / 64 = a * 4 + b / 64 :=
  ⟨shiftLeft_or 4 (by omega), shiftLeft_or 2 (by omega)⟩

/-- Masks above the low bits. -/
theorem masked_eq (a : ℕ) :
    (a <<< 4) &&& 0x30 = (a % 4) <<< 4 ∧ (a <<< 2) &&& 0x3c = (a % 16) <<< 2 := by
  constructor
  · rw [show 0x30 = 3 <<< 4 from rfl, ← Nat.shiftLeft_and_distrib, Nat.and_two_pow_sub_one_eq_mod _ 2]
  · rw [show 0x3c = 15 <<< 2 from rfl, ← Nat.shiftLeft_and_distrib, Nat.and_two_pow_sub_one_eq_mod _ 4]

theorem low_eq (a : ℕ) : a &&& 0x3f = a % 64 ∧ a &&& 0x3 = a % 4 :=
  ⟨Nat.and_two_pow_sub_one_eq_mod a 6, Nat.and_two_pow_sub_one_eq_mod a 2⟩

/-- The indices of `base64Encode` into its table. -/
theorem sextets_eq {a b c : ℕ} (ha : a < 256) (hb : b < 256) (hc : c < 256) :
    (a >>> 2) &&& 0x3F = a / 4 ∧ (((a &&& 0x3) <<< 4) ||| (b >>> 4)) &&& 0x3F = a % 4 * 16 + b / 16 ∧
      ((b <<< 2) ||| (c >>> 6)) &&& 0x3F = b % 16 * 4 + c / 64 ∧
      ((a &&& 0x3) <<< 4) &&& 0x3F = a % 4 * 16 ∧ (b <<< 2) &&& 0x3F = b % 16 * 4 := by
  simp only [shiftRight_eq, low_eq, joined_eq hb, joined_eq hc]
  refine ⟨by omega, by omega, by omega, ?_, ?_⟩ <;> rw [Nat.shiftLeft_eq] <;> omega

/-! ## `base64_bits_to_64` -/

/-- **What the first encoder writes** is the encoding, and a NUL. -/
theorem bitsFrom_eq (x : List UInt8) : bitsFrom x x.length = Base64.encode x ++ [0] := by
  fun_induction Base64.encode x with
  | case1 a b c x ih =>
      have hlen : ((a :: b :: c :: x).length : ℤ) - 3 = x.length := by
        simp only [List.length_cons]
        omega
      rw [bitsFrom, if_pos (by simp only [List.length_cons]; omega), hlen]
      simp only [byteAt, List.getD_cons_zero, List.getD_cons_succ, List.drop_succ_cons, List.drop_zero, ih,
        charAt_eq, shiftRight_eq, masked_eq, low_eq, joined_eq b.toNat_lt, joined_eq c.toNat_lt,
        List.cons_append]
  | case2 a b =>
      rw [bitsFrom, if_neg (by simp), if_pos (by simp)]
      simp only [byteAt, List.getD_cons_zero, List.getD_cons_succ, charAt_eq, shiftRight_eq, masked_eq]
      simp [joined_eq b.toNat_lt, Nat.shiftLeft_eq (_ % 16), Base64.fill]
  | case3 a =>
      rw [bitsFrom, if_neg (by simp), if_pos (by simp)]
      simp only [byteAt, List.getD_cons_zero, charAt_eq, shiftRight_eq, masked_eq]
      simp [Nat.shiftLeft_eq, Base64.fill]
  | case4 => simp [bitsFrom]

/-! ## Bytes in a memory -/

/-- The memory begins with these bytes. -/
def Holds (m : ℕ → UInt8) (s : List UInt8) : Prop := ∀ k, ∀ h : k < s.length, m k = s[k]

theorem holds_nil : Holds m [] := fun k h => absurd h (Nat.not_lt_zero k)

/-- The byte behind them is written. -/
theorem Holds.put (h : Holds m s) (hn : s.length = n) (hlt : n < 2 ^ 32) (b : UInt8) :
    Holds (put m n b) (s ++ [b]) := by
  intro k hk
  rw [Base64Text.put, Nat.mod_eq_of_lt hlt, ← hn]
  rw [List.length_append, List.length_singleton] at hk
  by_cases hlast : k = s.length
  · subst hlast
    rw [Function.update_self, List.getElem_concat_length rfl]
  · have hbefore : k < s.length := by omega
    rw [Function.update_of_ne hlast, List.getElem_append_left hbefore]
    exact h k hbefore

/-- Four bytes are written, one behind the other. -/
theorem Holds.put_four (h : Holds m s) (hn : s.length = n) (hlt : n + 3 < 2 ^ 32) (a b c d : UInt8) :
    Holds (Base64Text.put (Base64Text.put (Base64Text.put (Base64Text.put m n a) (n + 1) b) (n + 2) c)
      (n + 3) d) (s ++ [a, b, c, d]) := by
  have ha := h.put hn (by omega) a
  have hb := ha.put (n := n + 1) (by simp [hn]) (by omega) b
  have hc := hb.put (n := n + 2) (by simp [hn]) (by omega) c
  have hd := hc.put (n := n + 3) (by simp [hn]) (by omega) d
  simpa only [List.append_assoc, List.cons_append, List.nil_append] using hd

/-! ## `base64Encode` -/

/-- The encoding of whole groups is a part of the encoding. -/
theorem encode_append (x y : List UInt8) (h : x.length % 3 = 0) :
    Base64.encode (x ++ y) = Base64.encode x ++ Base64.encode y := by
  fun_induction Base64.encode x with
  | case1 a b c x ih =>
      have hlen : x.length % 3 = 0 := by
        simp only [List.length_cons] at h
        omega
      simp only [List.cons_append, Base64.encode, ih hlen]
  | case2 a b => simp at h
  | case3 a => simp at h
  | case4 => rfl

theorem byteAt_drop (x : List UInt8) (i k : ℕ) : byteAt x (i + k) = byteAt (x.drop i) k := by
  rw [byteAt, byteAt, List.getD_eq_getElem?_getD, List.getD_eq_getElem?_getD, List.getElem?_drop]

theorem exists_three {l : List UInt8} (h : 3 ≤ l.length) : ∃ a b c rest, l = a :: b :: c :: rest := by
  rcases l with - | ⟨a, - | ⟨b, - | ⟨c, rest⟩⟩⟩
  · simp at h
  · simp at h
  · simp at h
  · exact ⟨a, b, c, rest, rfl⟩

/-- **One round** writes the symbols of the next group. -/
theorem Holds.encodeGroup {a b c : UInt8} {rest : List UInt8} (h : Holds m s) (hn : s.length = 4 * i)
    (hlt : 4 * i + 3 < 2 ^ 32) (hx : x.drop (3 * i) = a :: b :: c :: rest) :
    Holds (encodeGroup x m i) (s ++ Base64.encode [a, b, c]) := by
  obtain ⟨hhigh, hsecond, hthird, -, -⟩ := sextets_eq a.toNat_lt b.toNat_lt c.toNat_lt
  have hsymbols : Base64.encode [a, b, c] = [charAt ((a.toNat >>> 2) &&& 0x3F),
      charAt ((((a.toNat &&& 0x3) <<< 4) ||| (b.toNat >>> 4)) &&& 0x3F),
      charAt (((b.toNat <<< 2) ||| (c.toNat >>> 6)) &&& 0x3F), charAt (c.toNat &&& 0x3F)] := by
    rw [hhigh, hsecond, hthird, (low_eq _).1]
    rfl
  have hbyte (k : ℕ) : byteAt x (3 * i + k) = byteAt (a :: b :: c :: rest) k := by rw [← hx, byteAt_drop]
  have hfirst : byteAt x (3 * i) = a.toNat := hbyte 0
  rw [Base64Text.encodeGroup, hfirst, hbyte 1, hbyte 2, hsymbols]
  exact h.put_four hn hlt _ _ _ _

/-- **What the loop has written** after `i` rounds. -/
theorem holds_encodeGroups (x : List UInt8) (m : ℕ → UInt8) (h : 3 * i ≤ x.length) (hlt : 4 * i < 2 ^ 32) :
    Holds (encodeGroups x m i) (Base64.encode (x.take (3 * i))) := by
  induction i with
  | zero => exact holds_nil
  | succ i ih =>
      have hlen : (x.take (3 * i)).length = 3 * i := by
        rw [List.length_take]
        omega
      have hthree : 3 ≤ (x.drop (3 * i)).length := by
        rw [List.length_drop]
        omega
      obtain ⟨a, b, c, rest, hx⟩ := exists_three hthree
      have htake : x.take (3 * (i + 1)) = x.take (3 * i) ++ [a, b, c] := by
        rw [show 3 * (i + 1) = 3 * i + 3 by omega, List.take_add, hx]
        rfl
      have hsymbols : (Base64.encode (x.take (3 * i))).length = 4 * i := by
        rw [Base64.length_encode, hlen]
        omega
      rw [htake, encode_append _ _ (by omega)]
      exact (ih (by omega) (by omega)).encodeGroup hsymbols (by omega) hx

/-- **What the second encoder writes**, if the text is not longer than an `unsigned` can count. -/
theorem holds_base64Encode (m : ℕ → UInt8) (hn : origLength.toNat = x.length)
    (hlt : x.length ≤ 3 * (2 ^ 30 - 1)) :
    Holds (base64Encode m (some x) origLength).2 (Base64.encode x ++ [0]) := by
  have hgroups := holds_encodeGroups (i := x.length / 3) x m (by omega) (by omega)
  have hlen : (x.take (3 * (x.length / 3))).length = 3 * (x.length / 3) := by
    rw [List.length_take]
    omega
  have hsymbols : (Base64.encode (x.take (3 * (x.length / 3)))).length = 4 * (x.length / 3) := by
    rw [Base64.length_encode, hlen]
    omega
  have hsplit : Base64.encode x =
      Base64.encode (x.take (3 * (x.length / 3))) ++ Base64.encode (x.drop (3 * (x.length / 3))) := by
    rw [← encode_append _ _ (by omega), List.take_append_drop]
  have hdrop : (x.drop (3 * (x.length / 3))).length = x.length % 3 := by
    rw [List.length_drop]
    omega
  have hbyte (k : ℕ) := byteAt_drop x (3 * (x.length / 3)) k
  have hfirst := hbyte 0
  rw [Nat.add_zero] at hfirst
  simp only [base64Encode, hn]
  rw [hsplit]
  rcases hrest : x.drop (3 * (x.length / 3)) with - | ⟨a, - | ⟨b, - | ⟨c, rest⟩⟩⟩
  · rw [hrest, List.length_nil] at hdrop
    rw [if_neg (by omega), if_neg (by omega), Nat.add_zero, Base64.encode, List.append_nil]
    exact hgroups.put hsymbols (by omega) 0
  · rw [hrest, List.length_singleton] at hdrop
    obtain ⟨hhigh, -, -, hsecond, -⟩ := sextets_eq a.toNat_lt a.toNat_lt a.toNat_lt
    rw [hrest] at hfirst
    have hbytes : Base64.encode [a] = [charAt ((a.toNat >>> 2) &&& 0x3F),
        charAt (((a.toNat &&& 0x3) <<< 4) &&& 0x3F), 61, 61] := by
      rw [hhigh, hsecond]
      rfl
    have hfour := hgroups.put_four hsymbols (by omega) (charAt ((a.toNat >>> 2) &&& 0x3F))
      (charAt (((a.toNat &&& 0x3) <<< 4) &&& 0x3F)) 61 61
    rw [if_pos (by omega), if_pos (by omega), encodeRest, decide_eq_false (by omega), hfirst, hbytes]
    exact hfour.put (by simp [hsymbols]; omega) (by omega) 0
  · rw [hrest] at hdrop hbyte hfirst
    have hdrop : x.length % 3 = 2 := hdrop.symm
    obtain ⟨hhigh, hsecond, -, -, hthird⟩ := sextets_eq a.toNat_lt b.toNat_lt a.toNat_lt
    have hbytes : Base64.encode [a, b] = [charAt ((a.toNat >>> 2) &&& 0x3F),
        charAt ((((a.toNat &&& 0x3) <<< 4) ||| (b.toNat >>> 4)) &&& 0x3F),
        charAt ((b.toNat <<< 2) &&& 0x3F), 61] := by
      rw [hhigh, hsecond, hthird]
      rfl
    have hfour := hgroups.put_four hsymbols (by omega) (charAt ((a.toNat >>> 2) &&& 0x3F))
      (charAt ((((a.toNat &&& 0x3) <<< 4) ||| (b.toNat >>> 4)) &&& 0x3F)) (charAt ((b.toNat <<< 2) &&& 0x3F)) 61
    rw [if_pos (by omega), if_pos (by omega), encodeRest, decide_eq_true (by omega), hfirst, hbyte 1, hbytes]
    exact hfour.put (by simp [hsymbols]; omega) (by omega) 0
  · rw [hrest] at hdrop
    simp only [List.length_cons] at hdrop
    omega

/-! ## Both -/

/-- **The two encoders agree.** For every byte string whose length is an `int`, the text that
    `base64Encode` leaves at `result` is the one that `base64_bits_to_64` writes to `out`. -/
theorem encoders_agree (m : ℕ → UInt8) (x : List UInt8) (inlen : Int32) (h : inlen.toInt = x.length) :
    ∃ text : CString, base64BitsTo64 x inlen = text.bytes ++ [0] ∧
      (base64Encode m (some x) inlen.toUInt32).1 = 0 ∧
      Holds (base64Encode m (some x) inlen.toUInt32).2 (text.bytes ++ [0]) := by
  have hlt := inlen.toInt_lt
  have hbits : base64BitsTo64 x inlen = Base64.encode x ++ [0] := by
    rw [base64BitsTo64, h, bitsFrom_eq]
  have hn : inlen.toUInt32.toNat = x.length := by
    have hle : 0 ≤ inlen := Int32.le_iff_toInt_le.2 (h ▸ Int.natCast_nonneg _)
    rw [Int32.toNat_toUInt32_of_le hle, ← Int32.toNat_toInt, h, Int.toNat_natCast]
  exact ⟨⟨Base64.encode x, Base64.zero_notMem_encode x⟩, hbits, rfl,
    holds_base64Encode m hn (by omega)⟩

/-- Two bytes, over a memory that is not cleared. -/
theorem encoders_agree_two :
    (2 : Int32).toInt = (ascii "ab").length ∧
      ∃ text : CString, base64BitsTo64 (ascii "ab") 2 = text.bytes ++ [0] ∧
        (base64Encode (fun _ => 255) (some (ascii "ab")) (2 : Int32).toUInt32).1 = 0 ∧
        Holds (base64Encode (fun _ => 255) (some (ascii "ab")) (2 : Int32).toUInt32).2 (text.bytes ++ [0]) :=
  ⟨by decide, encoders_agree _ _ _ (by decide)⟩

end SmartPlat.Base64Text
