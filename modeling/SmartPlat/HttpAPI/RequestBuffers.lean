import SmartPlat.CharBuffer
import SmartPlat.HttpAPI.HttpPares

set_option autoImplicit false

/-! # The head of a request, byte by byte: `App/HttpAPI/httppares.c`

`GetHttpRequstHead` on the text with its terminator, into the arrays as they are. A pointer into the text
is what can be read from it on; a read behind the terminator and a write behind an array are faults. -/

namespace SmartPlat.HttpAPI.Buffers

open SmartPlat.Lib

variable {size : ℕ}

/-- `out[i] = b` -/
def put (out : CharBuffer size) (i : ℕ) (b : UInt8) : Except Fault (CharBuffer size) :=
  if i < size then .ok ⟨out.bytes.set i b, by rw [List.length_set, out.length_eq]⟩ else .error .badAccess

/-! ## `usr_getvalue_btweenpoint` -/

/-- The first loop: `phead`, with `n` bytes up to `pend`, is moved to the first byte that is no gap. -/
def skipGaps : ℕ → List UInt8 → Except Fault (ℕ × List UInt8)
  | 0, phead => .ok (0, phead)
  | _ + 1, [] => .error .badAccess
  | n + 1, b :: phead => if isGap b then skipGaps n phead else .ok (n + 1, b :: phead)

/-- The second loop, at `i`: what is copied ends with a gap or at `pend`. -/
def copyValue (i : ℕ) : ℕ → List UInt8 → CharBuffer size → Except Fault (CharBuffer size)
  | 0, _, out => .ok out
  | _ + 1, [], _ => .error .badAccess
  | n + 1, b :: phead, out => if isGap b then .ok out else put out i b >>= copyValue (i + 1) n phead

/-- `usr_getvalue_btweenpoint(phead, pend, out)`, with `n = pend - phead`. -/
def usrGetvalueBtweenpoint (phead : List UInt8) (n : ℤ) (out : CharBuffer size) :
    Except Fault (ℤ × CharBuffer size) :=
  if n < 0 then .ok (-1, out)
  else
    match n.toNat, phead with
    | 0, [] => .error .badAccess
    | 0, b :: _ => if isGap b then .ok (0, out) else (put out 0 b).map fun out => (0, out)
    | n + 1, phead => do
        let (n, phead) ← skipGaps (n + 1) phead
        let out ← copyValue 0 n phead out
        return (0, out)

/-! ## The fields -/

/-- A search for `name`, and the value `k` bytes behind where it starts. -/
def getValueBehind (name : List UInt8) (k : ℕ) (str : CString) (out : CharBuffer size) :
    Except Fault (ℤ × CharBuffer size) :=
  match strstr name str.bytes with
  | none => .ok (keyFalse, out)
  | some pHead =>
      (usrGetvalueBtweenpoint ((pHead ++ [0]).drop k) (pHead.length - k : ℤ) out).map fun r => (keyTrue, r.2)

/-- `GetHttpUrl` -/
def getHttpUrl (str : CString) (url : CharBuffer 128) : Except Fault (ℤ × CharBuffer 128) :=
  getValueBehind (ascii " ") 1 str url

/-- `GetHttpHost` -/
def getHttpHost (str : CString) (host : CharBuffer 64) : Except Fault (ℤ × CharBuffer 64) :=
  getValueBehind (ascii "Host:") 6 str host

/-- `GetHttpBoundary` -/
def getHttpBoundary (str : CString) (boundary : CharBuffer 256) : Except Fault (ℤ × CharBuffer 256) :=
  getValueBehind (ascii "boundary=") 10 str boundary

/-- `GetHttpContentLenth`, with `tmp[16]`. When `tmp` is full of one number, `atoi` reads on behind it. -/
def getHttpContentLenth (str : CString) : Except Fault (ℤ × CharBuffer 16) := do
  let (found, tmp) ← getValueBehind upperName 16 str (.zeros 16)
  if found = keyFalse then return (keyFalse, tmp)
  else if ¬ tmp.Terminated ∧ behindNumber tmp.bytes = [] then .error .badAccess
  else return (atoi tmp.str.bytes, tmp)

/-- What `GetHttpRequstHead` fills: `HttpReqHead_T` and two local arrays. -/
structure RequstHead where
  /-- `method[8]` -/
  methodText : CharBuffer 8
  method : HttpMethod
  url : CharBuffer 128
  host : CharBuffer 64
  /-- `tmp[16]` of `GetHttpContentLenth` -/
  tmp : CharBuffer 16
  contentLength : ℤ
  boundary : CharBuffer 256

/-- `GetHttpRequstHead`, into a cleared `HttpReqHead_T`. The method is looked for in five bytes of the
    text, how many it may have. -/
def getHttpRequstHead (msg : CString) : Except Fault RequstHead := do
  let (_, methodText) ← usrGetvalueBtweenpoint (msg.bytes ++ [0]) 5 (.zeros 8)
  let (_, url) ← getHttpUrl msg (.zeros 128)
  let (_, host) ← getHttpHost msg (.zeros 64)
  let (contentLength, tmp) ← getHttpContentLenth msg
  let (_, boundary) ← getHttpBoundary msg (.zeros 256)
  return ⟨methodText, httpMethodStrToInt methodText.str, url, host, tmp, contentLength, boundary⟩

end SmartPlat.HttpAPI.Buffers
