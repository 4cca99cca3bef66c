import SmartPlat.CString
import SmartPlat.Lib.Base64
import Mathlib.Logic.Function.Basic

set_option autoImplicit false

/-! # Base64: `ExtLibs/Base64/base64.c`

Two encoders and two decoders. What is written through a pointer that only goes forward is the list of the
bytes written; `base64Encode` writes by index, into a memory that is a function of it. -/

namespace SmartPlat.Base64Text

open SmartPlat.Lib

/-! ## The tables -/

/-- `BASE64_CHARS` -/
def base64Chars : List UInt8 := ascii "ABCDEFGHIJKLMNOPQRSTUVWXYZabcdefghijklmnopqrstuvwxyz0123456789+/"

/-- `BASE64_CHARS[k]`; each index is below 64. -/
def charAt (k : ℕ) : UInt8 := base64Chars.getD k 0

/-- `BAD` -/
def bad : ℤ := -1

def base64val : List ℤ :=
  [bad, bad, bad, bad, bad, bad, bad, bad, bad, bad, bad, bad, bad, bad, bad, bad,
    bad, bad, bad, bad, bad, bad, bad, bad, bad, bad, bad, bad, bad, bad, bad, bad,
    bad, bad, bad, bad, bad, bad, bad, bad, bad, bad, bad, 62, bad, bad, bad, 63,
    52, 53, 54, 55, 56, 57, 58, 59, 60, 61, bad, bad, bad, bad, bad, bad,
    bad, 0, 1, 2, 3, 4, 5, 6, 7, 8, 9, 10, 11, 12, 13, 14,
    15, 16, 17, 18, 19, 20, 21, 22, 23, 24, 25, bad, bad, bad, bad, bad,
    bad, 26, 27, 28, 29, 30, 31, 32, 33, 34, 35, 36, 37, 38, 39, 40,
    41, 42, 43, 44, 45, 46, 47, 48, 49, 50, 51, bad, bad, bad, bad, bad]

/-- `DECODE64(c)` -/
def decode64 (c : UInt8) : ℤ := if c < 128 then base64val.getD c.toNat bad else bad

/-! ## `base64_bits_to_64` -/

/-- `in[k]`, as an `int` -/
def byteAt (input : List UInt8) (k : ℕ) : ℕ := (input.getD k 0).toNat

/-- The bytes written to `out`, with the NUL. -/
def bitsFrom (input : List UInt8) (inlen : ℤ) : List UInt8 :=
  if inlen ≥ 3 then
    charAt (byteAt input 0 >>> 2)
      :: charAt (((byteAt input 0 <<< 4) &&& 0x30) ||| (byteAt input 1 >>> 4))
      :: charAt (((byteAt input 1 <<< 2) &&& 0x3c) ||| (byteAt input 2 >>> 6))
      :: charAt (byteAt input 2 &&& 0x3f)
      :: bitsFrom (input.drop 3) (inlen - 3)
  else if inlen > 0 then
    let fragment := (byteAt input 0 <<< 4) &&& 0x30
    let fragment := if inlen > 1 then fragment ||| (byteAt input 1 >>> 4) else fragment
    [charAt (byteAt input 0 >>> 2), charAt fragment,
      if inlen < 2 then 61 else charAt ((byteAt input 1 <<< 2) &&& 0x3c), 61, 0]
  else [0]
termination_by inlen.toNat

def base64BitsTo64 (input : List UInt8) (inlen : Int32) : List UInt8 := bitsFrom input inlen.toInt

/-! ## `base64Encode` -/

/-- `result[i] = b`; an index is an `unsigned`. -/
def put (result : ℕ → UInt8) (i : ℕ) (b : UInt8) : ℕ → UInt8 := Function.update result (i % 2 ^ 32) b

/-- One round of the loop. -/
def encodeGroup (orig : List UInt8) (result : ℕ → UInt8) (i : ℕ) : ℕ → UInt8 :=
  let result := put result (4 * i + 0) (charAt ((byteAt orig (3 * i) >>> 2) &&& 0x3F))
  let result := put result (4 * i + 1)
    (charAt ((((byteAt orig (3 * i) &&& 0x3) <<< 4) ||| (byteAt orig (3 * i + 1) >>> 4)) &&& 0x3F))
  let result := put result (4 * i + 2)
    (charAt (((byteAt orig (3 * i + 1) <<< 2) ||| (byteAt orig (3 * i + 2) >>> 6)) &&& 0x3F))
  put result (4 * i + 3) (charAt (byteAt orig (3 * i + 2) &&& 0x3F))

/-- The first `n` rounds. -/
def encodeGroups (orig : List UInt8) (result : ℕ → UInt8) : ℕ → ℕ → UInt8
  | 0 => result
  | i + 1 => encodeGroup orig (encodeGroups orig result i) i

/-- What is written behind the groups. -/
def encodeRest (orig : List UInt8) (havePadding2 : Bool) (result : ℕ → UInt8) (i : ℕ) : ℕ → UInt8 :=
  let result := put result (4 * i + 0) (charAt ((byteAt orig (3 * i) >>> 2) &&& 0x3F))
  let result :=
    if havePadding2 then
      put (put result (4 * i + 1)
        (charAt ((((byteAt orig (3 * i) &&& 0x3) <<< 4) ||| (byteAt orig (3 * i + 1) >>> 4)) &&& 0x3F)))
        (4 * i + 2) (charAt ((byteAt orig (3 * i + 1) <<< 2) &&& 0x3F))
    else
      put (put result (4 * i + 1) (charAt (((byteAt orig (3 * i) &&& 0x3) <<< 4) &&& 0x3F))) (4 * i + 2) 61
  put result (4 * i + 3) 61

/-- The return value and `result`. -/
def base64Encode (result : ℕ → UInt8) (origSigned : Option (List UInt8)) (origLength : UInt32) :
    ℤ × (ℕ → UInt8) :=
  match origSigned with
  | none => (-1, result)
  | some orig =>
      let numOrig24BitValues := origLength.toNat / 3
      let havePadding := origLength.toNat > numOrig24BitValues * 3
      let havePadding2 := origLength.toNat = numOrig24BitValues * 3 + 2
      let numResultBytes := 4 * (numOrig24BitValues + if havePadding then 1 else 0)
      let result := encodeGroups orig result numOrig24BitValues
      let result :=
        if havePadding then encodeRest orig havePadding2 result numOrig24BitValues else result
      (0, put result numResultBytes 0)

/-! ## `base64_64_to_bits` -/

/-- The loop: `len` and the bytes written to `out`, or `none` for `return(-1)`. Behind a text of less than
    four bytes one of the digits is its NUL, which is `BAD`. -/
def bitsLoop (len : Int32) : List UInt8 → Option (Int32 × List UInt8)
  | digit1 :: digit2 :: digit3 :: digit4 :: input =>
      if decode64 digit1 = bad then none
      else if decode64 digit2 = bad then none
      else if digit3 ≠ 61 ∧ decode64 digit3 = bad then none
      else if digit4 ≠ 61 ∧ decode64 digit4 = bad then none
      else
        let v1 := (decode64 digit1).toNat
        let v2 := (decode64 digit2).toNat
        let v3 := (decode64 digit3).toNat
        let v4 := (decode64 digit4).toNat
        let out := [UInt8.ofNat ((v1 <<< 2) ||| (v2 >>> 4))]
        let out := if digit3 ≠ 61 then out ++ [UInt8.ofNat (((v2 <<< 4) &&& 0xf0) ||| (v3 >>> 2))] else out
        let out :=
          if digit3 ≠ 61 ∧ digit4 ≠ 61 then out ++ [UInt8.ofNat (((v3 <<< 6) &&& 0xc0) ||| v4)] else out
        let len := len + Int32.ofNat out.length
        if input ≠ [] ∧ input.head? ≠ some 13 ∧ digit4 ≠ 61 then
          (bitsLoop len input).map fun r => (r.1, out ++ r.2)
        else some (len, out)
  | _ => none

def base64_64ToBits (input : CString) : Option (Int32 × List UInt8) :=
  let text := input.bytes
  let text := if text.head? = some 43 ∧ text[1]? = some 32 then text.drop 2 else text
  if text.head? = some 13 then some (0, []) else bitsLoop 0 text

/-! ## `base64Decode` -/

/-- `base64DecodeTable[c]` -/
def base64DecodeTable (c : UInt8) : ℕ :=
  if 65 ≤ c ∧ c ≤ 90 then c.toNat - 65
  else if 97 ≤ c ∧ c ≤ 122 then 26 + (c.toNat - 97)
  else if 48 ≤ c ∧ c ≤ 57 then 52 + (c.toNat - 48)
  else if c = 43 then 62
  else if c = 47 then 63
  else if c = 61 then 0
  else 0x80

/-- `outTmp[i]` -/
def outTmp (c : UInt8) : ℕ :=
  if base64DecodeTable c &&& 0x80 ≠ 0 then 0 else base64DecodeTable c

/-- The bytes of one round. -/
def decodeGroup (c₀ c₁ c₂ c₃ : UInt8) : List UInt8 :=
  [UInt8.ofNat ((outTmp c₀ <<< 2) ||| (outTmp c₁ >>> 4)),
    UInt8.ofNat ((outTmp c₁ <<< 4) ||| (outTmp c₂ >>> 2)), UInt8.ofNat ((outTmp c₂ <<< 6) ||| outTmp c₃)]

/-- The loop from `j` on: what is written to `out`. A `j` that does not fit an `int` is negative, and far
    from the text. -/
def decodeFrom (text : List UInt8) (jMax : ℤ) (j : ℕ) : Except Fault (List UInt8) :=
  if j < jMax then
    let group := decodeGroup (text.getD j 0) (text.getD (j + 1) 0) (text.getD (j + 2) 0) (text.getD (j + 3) 0)
    if j + 4 < 2 ^ 31 then (decodeFrom text jMax (j + 4)).map (group ++ ·) else .error .badAccess
  else .ok []
termination_by (jMax - j).toNat

/-- `k` and the bytes written to `out`. -/
def base64Decode (input : CString) : Except Fault (ℕ × List UInt8) :=
  let jMax := Int32.ofInt (input.strlen - 3)
  (decodeFrom input.bytes jMax.toInt 0).map fun out => (out.length, out)

end SmartPlat.Base64Text
