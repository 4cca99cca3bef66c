import SmartPlat.CString
import SmartPlat.Lib.Printf

set_option autoImplicit false

/-! # Where a request ends: `App/HttpAPI/httpapi.c`

The server thread of `tsocket.c` receives into one buffer and asks `HttpChecked` after each chunk whether
the request is complete. -/

namespace SmartPlat.HttpAPI

open SmartPlat.Lib

/-! ## `HttpChecked` -/

/-- Ways in which `HttpChecked` leaves what C defines. -/
inductive HttpFault where
  /-- `memcpy` writes outside `tmp`. -/
  | copy
  /-- `atoi` reads on behind `tmp`. -/
  | read
  /-- The length of the request is no `int`. -/
  | overflow
  deriving DecidableEq, Repr

/-- `HttpDef_S`; `pHeadEnd` is not used. -/
structure HttpDef where
  ContentLen : ℤ
  HeadLen : ℕ
  IsHeadEnd : Bool
  deriving DecidableEq, Repr

def HttpDef.init : HttpDef := ⟨0, 0, false⟩

def crlf : List UInt8 := [13, 10]

def lowerName : List UInt8 := ascii "content-length:"

def upperName : List UInt8 := ascii "Content-Length:"

/-- `HeadLen` and `IsHeadEnd`, once the head is there. -/
def endOfHead (info : HttpDef) (str : List UInt8) : Option HttpDef :=
  if info.IsHeadEnd then some info
  else
    (strstr (crlf ++ crlf) str).map fun headEnd =>
      { info with HeadLen := str.length - headEnd.length + 4, IsHeadEnd := true }

/-- `ps`, before it is moved behind the name. -/
def findContentLength (str : List UInt8) : Option (List UInt8) :=
  (strstr lowerName str).orElse fun _ => strstr upperName str

/-- What `atoi` leaves of a text. -/
def behindNumber (s : List UInt8) : List UInt8 :=
  let s := s.dropWhile fun b => b = 32 ∨ 9 ≤ b ∧ b ≤ 13
  let digits := match s with
    | 45 :: digits => digits
    | 43 :: digits => digits
    | digits => digits
  digits.dropWhile fun b => 48 ≤ b ∧ b ≤ 57

/-- `memcpy(tmp, ps, pe - ps)` into the cleared `tmp[32]`, with `ps` behind the name and one more byte,
    and `atoi(tmp)`. -/
def copyLength (ps pe : List UInt8) : Except HttpFault ℤ :=
  let n : ℤ := (ps.length : ℤ) - 16 - pe.length
  if n < 0 ∨ 32 < n then .error .copy
  else
    let tmp := (ps.drop 16).take n.toNat
    if tmp.length = 32 ∧ behindNumber tmp = [] then .error .read else .ok (atoi tmp)

/-- `(info->ContentLen + info->HeadLen) <= cli->recvLen` -/
def compareLength (info : HttpDef) (recvLen : ℕ) : Except HttpFault (Bool × HttpDef) :=
  if 2 ^ 31 ≤ info.ContentLen + info.HeadLen then .error .overflow
  else .ok (info.ContentLen + info.HeadLen ≤ recvLen, info)

/-- `HttpChecked`: the result and `cli->usrdef`. -/
def httpChecked (info : HttpDef) (recvmsg : List UInt8) : Except HttpFault (Bool × HttpDef) :=
  let str := (CString.ofBuffer recvmsg).bytes
  match endOfHead info str with
  | none => .ok (false, info)
  | some info =>
      if info.ContentLen = 0 then
        match findContentLength str with
        | none => .ok (true, info)
        | some ps =>
            match strstr crlf ps with
            | none => .ok (true, info)
            | some pe => (copyLength ps pe).bind fun ContentLen =>
                compareLength { info with ContentLen := ContentLen } recvmsg.length
      else compareLength info recvmsg.length

/-! ## Receiving -/

/-- `DF_NET_MSGBUFLEN` -/
def DF_NET_MSGBUFLEN : ℕ := 5 * 1024 * 1024

/-- The loop of `CheckSelectRead`: what `HttpChecked` returns after each chunk, up to the first time
    that the request is handled. -/
def checkSelectRead (info : HttpDef) (recvmsg : List UInt8) :
    List (List UInt8) → Except HttpFault (List Bool)
  | [] => .ok []
  | chunk :: chunks =>
      (httpChecked info (recvmsg ++ chunk)).bind fun r =>
        if r.1 then .ok [true]
        else (checkSelectRead r.2 (recvmsg ++ chunk) chunks).map fun rs => false :: rs

end SmartPlat.HttpAPI
