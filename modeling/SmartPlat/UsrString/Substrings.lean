import SmartPlat.CString

set_option autoImplicit false

/-! # Substrings between two points: `ExtLibs/UsrString/userdefine.c`

A pointer into a text is a position in it. The loops count with `int`s, and a length that they are given is
cut to one. -/

namespace SmartPlat

/-! ## `usr_str_btweenpoint` -/

/-- `(size_t)d` -/
def sizeT (d : ℤ) : ℕ := (d % 2 ^ 64).toNat

/-- The bytes of `[pfont, pbehind)`. -/
def rangeOf (text : List UInt8) (pfont pbehind : ℕ) : List UInt8 := (text.take pbehind).drop pfont

/-- The inner loop from `j` on: whether it returns. The NUL of `str` can be compared, but nothing behind it
    and nothing outside the range; an index that is no `int` is negative. -/
def compareFrom (range : List UInt8) (str : CString) (strlenth : Int32) (i j : ℕ) : Except Fault Bool :=
  if i + j < 2 ^ 31 ∧ i + j < range.length ∧ j ≤ str.strlen then
    if (str.bytes ++ [0]).getD j 0 = range.getD (i + j) 0 then
      if Int32.ofNat j = strlenth - 1 then .ok true else compareFrom range str strlenth i (j + 1)
    else .ok false
  else .error .badAccess
termination_by str.strlen + 1 - j

/-- The outer loop from `i` on. With an `i` that is no `int` it goes on in front of the range. -/
def searchFrom (range : List UInt8) (str : CString) (strlenth : Int32) (i : ℕ) : Except Fault (Option ℕ) :=
  if (Int32.ofNat i + strlenth).toInt ≤ range.length then
    (compareFrom range str strlenth i 0).bind fun found =>
      if found then .ok (some i)
      else if i + 1 < 2 ^ 31 then searchFrom range str strlenth (i + 1)
      else .error .badAccess
  else .ok none
termination_by 2 ^ 31 - i

def usrStrBtweenpoint (text : List UInt8) (pfont pbehind : Option ℕ) (str : Option CString) :
    Except Fault (Option ℕ) :=
  match str, pfont, pbehind with
  | some str, some pfont, some pbehind =>
      if str.strlen > sizeT (pbehind - pfont) ∨ (pbehind - pfont : ℤ) ≤ 0 then .ok none
      else
        (searchFrom (rangeOf text pfont pbehind) str (Int32.ofNat str.strlen) 0).map fun r => r.map (pfont + ·)
  | _, _, _ => .ok none

/-! ## `usr_strnum_btweenpoint` -/

def countFrom (text : List UInt8) (pbehind : Option ℕ) (str : Option CString) :
    ℕ → Option ℕ → Int32 → Except Fault Int32
  | 0, _, _ => .error .timeout
  | fuel + 1, pf, count =>
      match usrStrBtweenpoint text pf pbehind str with
      | .error e => .error e
      | .ok none => .ok count
      | .ok (some pf) => countFrom text pbehind str fuel (some (pf + (str.map CString.strlen).getD 0)) (count + 1)

def usrStrnumBtweenpoint (fuel : ℕ) (text : List UInt8) (pfont pbehind : Option ℕ) (str : Option CString) :
    Except Fault Int32 :=
  countFrom text pbehind str fuel pfont 0

/-! ## `usr_strncasecmp`, `usr_strcasecmp` -/

/-- The comparison of two `char`s, which are signed. -/
def sameLetter (a b : UInt8) : Bool :=
  let c₁ := a.toInt8.toInt
  let c₂ := b.toInt8.toInt
  if c₁ = c₂ then true
  else if 65 ≤ c₁ ∧ c₁ ≤ 90 ∧ 97 ≤ c₂ ∧ c₂ ≤ 122 then c₁ + 32 = c₂
  else if 65 ≤ c₂ ∧ c₂ ≤ 90 ∧ 97 ≤ c₁ ∧ c₁ ≤ 122 then c₂ + 32 = c₁
  else false

/-- The loop over the bytes in front of `len`. -/
def compareLetters : List UInt8 → List UInt8 → ℤ
  | a :: s, b :: t => if sameLetter a b then compareLetters s t else -1
  | _, _ => 0

def usrStrncasecmp (str1 str2 : Option CString) (len : Int32) : ℤ :=
  match str1, str2 with
  | some str1, some str2 =>
      if Int32.ofNat str1.strlen < len ∨ Int32.ofNat str2.strlen < len then -1
      else compareLetters (str1.bytes.take len.toInt.toNat) (str2.bytes.take len.toInt.toNat)
  | _, _ => -1

def usrStrcasecmp (str1 str2 : CString) : ℤ :=
  let len := Int32.ofNat str1.strlen
  if sizeT len.toInt ≠ str2.strlen then -1 else usrStrncasecmp (some str1) (some str2) len

end SmartPlat
