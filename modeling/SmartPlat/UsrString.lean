import SmartPlat.CString
import SmartPlat.Lib.Printf

set_option autoImplicit false

/-! # Values in a text (`ExtLibs/UsrString/userdefine.c`) -/

namespace SmartPlat

open SmartPlat.Lib

/-- Blank, tab, CR or LF. -/
def isGap (b : UInt8) : Bool := b = 32 ∨ b = 9 ∨ b = 13 ∨ b = 10

/-- What `usr_getvalue_btweenpoint(phead, pend, out)` copies of the text between its two points. When the
    points coincide it copies the byte there, which is the terminator in all calls. -/
def usrGetvalueBtweenpoint (text : List UInt8) : List UInt8 :=
  (text.dropWhile isGap).takeWhile fun b => !isGap b

/-- The same into a cleared `char out[size]`. -/
def getValueInto (size : ℕ) (text : List UInt8) : Except Fault CString :=
  let value := usrGetvalueBtweenpoint text
  if value.length ≤ size then .ok (.ofBuffer value) else .error .badAccess

/-- A search for `name`, and the value behind it and the byte that follows it. -/
def getNamedValue (size : ℕ) (name str : List UInt8) : Except Fault (Option CString) :=
  match strstr name str with
  | none => .ok none
  | some pHead => (getValueInto size (pHead.drop (name.length + 1))).map some

end SmartPlat
