import SmartPlat.CharBuffer
import SmartPlat.Lib.Base64

set_option autoImplicit false

/-! # What is used of `ExtLibs/polarssl-1.0.0`

`base64_encode` of `library/base64.c`, with the capacity that it reads through its second argument. -/

namespace SmartPlat

open SmartPlat.Lib

/-- `POLARSSL_ERR_BASE64_BUFFER_TOO_SMALL` -/
def polarsslErrBase64BufferTooSmall : ℤ := -0x0010

/-- `base64_enc_map` -/
def base64EncMap : List UInt8 :=
  ascii "ABCDEFGHIJKLMNOPQRSTUVWXYZabcdefghijklmnopqrstuvwxyz0123456789+/"

/-- `base64_enc_map[k]`; each index is masked to six bits. -/
def encMapAt (k : ℕ) : UInt8 := base64EncMap.getD k 0

/-- What the loop of `base64_encode` and the branch behind it write. -/
def base64Symbols : List UInt8 → List UInt8
  | C1 :: C2 :: C3 :: src =>
      encMapAt ((C1.toNat >>> 2) &&& 0x3F) :: encMapAt ((((C1.toNat &&& 3) <<< 4) + (C2.toNat >>> 4)) &&& 0x3F)
        :: encMapAt ((((C2.toNat &&& 15) <<< 2) + (C3.toNat >>> 6)) &&& 0x3F)
        :: encMapAt (C3.toNat &&& 0x3F) :: base64Symbols src
  | [C1, C2] =>
      [encMapAt ((C1.toNat >>> 2) &&& 0x3F), encMapAt ((((C1.toNat &&& 3) <<< 4) + (C2.toNat >>> 4)) &&& 0x3F),
        encMapAt (((C2.toNat &&& 15) <<< 2) &&& 0x3F), 61]
  | [C1] =>
      [encMapAt ((C1.toNat >>> 2) &&& 0x3F), encMapAt ((((C1.toNat &&& 3) <<< 4) + (0 >>> 4)) &&& 0x3F), 61, 61]
  | [] => []

/-- `base64_encode(dst, &dlen, src, slen)`: the return value, `dst` and `dlen`. -/
def base64Encode {size : ℕ} (dst : CharBuffer size) (dlen : ℕ) (src : List UInt8) :
    Except Fault (ℤ × CharBuffer size × ℕ) :=
  let slen := src.length
  if slen = 0 then .ok (0, dst, dlen)
  else
    let n := slen * 8 / 6
    let n := match slen * 8 - n * 6 with
      | 2 => n + 3
      | 4 => n + 2
      | _ => n
    if dlen < n + 1 then .ok (polarsslErrBase64BufferTooSmall, dst, n + 1)
    else
      let symbols := base64Symbols src
      (dst.memcpy (symbols ++ [0])).map fun dst => (0, dst, symbols.length)

variable {size dlen : ℕ} {dst : CharBuffer size} {src : List UInt8}

/-! ## It is the encoding -/

theorem sextet_high (a : UInt8) : (a.toNat >>> 2) &&& 0x3F = a.toNat / 4 := by
  have ha := a.toNat_lt
  rw [Nat.and_two_pow_sub_one_eq_mod _ 6, Nat.shiftRight_eq_div_pow]
  omega

theorem sextet_second {n : ℕ} (a : UInt8) (hn : n < 256) :
    (((a.toNat &&& 3) <<< 4) + (n >>> 4)) &&& 0x3F = a.toNat % 4 * 16 + n / 16 := by
  rw [Nat.and_two_pow_sub_one_eq_mod _ 2, Nat.and_two_pow_sub_one_eq_mod _ 6, Nat.shiftRight_eq_div_pow,
    Nat.shiftLeft_eq]
  omega

theorem sextet_third {n : ℕ} (b : UInt8) (hn : n < 256) :
    (((b.toNat &&& 15) <<< 2) + (n >>> 6)) &&& 0x3F = b.toNat % 16 * 4 + n / 64 := by
  rw [Nat.and_two_pow_sub_one_eq_mod _ 4, Nat.and_two_pow_sub_one_eq_mod _ 6, Nat.shiftRight_eq_div_pow,
    Nat.shiftLeft_eq]
  omega

theorem base64Symbols_eq (src : List UInt8) : base64Symbols src = Base64.encode src := by
  fun_induction Base64.encode src with
  | case1 a b c src ih =>
      have hlow : c.toNat &&& 0x3F = c.toNat % 64 := Nat.and_two_pow_sub_one_eq_mod _ 6
      rw [base64Symbols, sextet_high, sextet_second a b.toNat_lt, sextet_third b c.toNat_lt, hlow, ih]
      rfl
  | case2 a b =>
      have hlast : ((b.toNat &&& 15) <<< 2) &&& 0x3F = b.toNat % 16 * 4 := sextet_third b (by decide : 0 < 256)
      rw [base64Symbols, sextet_high, sextet_second a b.toNat_lt, hlast]
      rfl
  | case3 a =>
      rw [base64Symbols, sextet_high, sextet_second a (by decide)]
      rfl
  | case4 => rfl

/-- How `base64_encode` ends: nothing is done for no bytes, and nothing but to tell the capacity that is
    needed when there is less. -/
theorem ends_base64Encode {R : ℤ × CharBuffer size × ℕ → Prop} :
    Ends (base64Encode dst dlen src) R ↔
      if src = [] then R (0, dst, dlen)
      else if dlen < (Base64.encode src).length + 1 then
        R (polarsslErrBase64BufferTooSmall, dst, (Base64.encode src).length + 1)
      else ∃ h : (Base64.encode src ++ [0]).length ≤ size,
        R (0, dst.overwrite (Base64.encode src ++ [0]) h, (Base64.encode src).length) := by
  have hcapacity : (match src.length * 8 - src.length * 8 / 6 * 6 with
      | 2 => src.length * 8 / 6 + 3
      | 4 => src.length * 8 / 6 + 2
      | _ => src.length * 8 / 6) = (Base64.encode src).length := by
    have hlen := Nat.div_add_mod src.length 3
    have hrest : src.length % 3 = 0 ∨ src.length % 3 = 1 ∨ src.length % 3 = 2 := by omega
    rw [Base64.length_encode]
    generalize src.length / 3 = k at hlen
    rcases hrest with h | h | h <;> rw [h] at hlen <;> rw [← hlen]
    · rw [show (3 * k + 0) * 8 / 6 = 4 * k by omega, show (3 * k + 0) * 8 - 4 * k * 6 = 0 by omega]
      show 4 * k = 4 * ((3 * k + 0 + 2) / 3)
      omega
    · rw [show (3 * k + 1) * 8 / 6 = 4 * k + 1 by omega,
        show (3 * k + 1) * 8 - (4 * k + 1) * 6 = 2 by omega]
      show 4 * k + 1 + 3 = 4 * ((3 * k + 1 + 2) / 3)
      omega
    · rw [show (3 * k + 2) * 8 / 6 = 4 * k + 2 by omega,
        show (3 * k + 2) * 8 - (4 * k + 2) * 6 = 4 by omega]
      show 4 * k + 2 + 2 = 4 * ((3 * k + 2 + 2) / 3)
      omega
  unfold base64Encode
  dsimp only
  rw [hcapacity, base64Symbols_eq]
  simp only [ends_ite, ends_ok, ends_exceptMap, CharBuffer.ends_memcpy, List.length_eq_zero_iff]

end SmartPlat
