import SmartPlat.HttpAPI.HttpChecked
import SmartPlat.JsonAPI.Switch
import SmartPlat.UsrString

set_option autoImplicit false

/-! # From a request to its response: `App/HttpAPI/httppares.c` -/

namespace SmartPlat.HttpAPI

open SmartPlat.Lib SmartPlat.JsonAPI

/-- `HTTPMSG_MAXLEN` -/
def httpmsgMaxlen : ℕ := 1024 * 10

/-- `HTTPMSG_SERVER` -/
def httpmsgServer : List UInt8 := ascii "GaoZhi/2.0"

/-! ## The head of a request -/

inductive HttpMethod where
  | null
  | post
  | get
  deriving DecidableEq, Repr

/-- `HttpReqHead_T`; nothing sets `connect`. -/
structure HttpReqHead where
  method : HttpMethod
  contentLength : ℤ
  host : CString
  url : CString
  boundary : CString

/-- `HttpMethodStrToInt` -/
def httpMethodStrToInt (str : CString) : HttpMethod :=
  if strcasecmp str.bytes (ascii "POST") then .post
  else if strcasecmp str.bytes (ascii "GET") then .get
  else .null

/-- `GetHttpUrl` -/
def getHttpUrl (str : List UInt8) : Except Fault CString :=
  match strstr (ascii " ") str with
  | none => .ok (.ofBuffer [])
  | some pHead => getValueInto 128 (pHead.drop 1)

/-- `GetHttpHost` -/
def getHttpHost (str : List UInt8) : Except Fault CString :=
  (getNamedValue 64 (ascii "Host:") str).map fun host => host.getD (.ofBuffer [])

/-- `GetHttpBoundary` -/
def getHttpBoundary (str : List UInt8) : Except Fault CString :=
  (getNamedValue 256 (ascii "boundary=") str).map fun boundary => boundary.getD (.ofBuffer [])

/-- `GetHttpContentLenth`: with `tmp[16]` full of one number, `atoi` reads on behind it. -/
def getHttpContentLenth (str : List UInt8) : Except Fault ℤ :=
  match strstr upperName str with
  | none => .ok keyFalse
  | some ps =>
      let tmp := usrGetvalueBtweenpoint (ps.drop 16)
      if 16 < tmp.length ∨ tmp.length = 16 ∧ behindNumber tmp = [] then .error .badAccess
      else .ok (atoi tmp)

/-- `GetHttpRequstHead` -/
def getHttpRequstHead (msg : List UInt8) : Except Fault HttpReqHead := do
  let method ← getValueInto 8 (msg.take 5)
  let url ← getHttpUrl msg
  let host ← getHttpHost msg
  let contentLength ← getHttpContentLenth msg
  let boundary ← getHttpBoundary msg
  return ⟨httpMethodStrToInt method, contentLength, host, url, boundary⟩

/-! ## The date (`GetUTCTime` of `timemanage.c`) -/

/-- What `gmtime_r` makes of the clock. -/
structure Tm where
  tmSec : Fin 61
  tmMin : Fin 60
  tmHour : Fin 24
  tmMday : Fin 32
  tmMon : Fin 12
  /-- Counted from 1900. -/
  tmYear : ℤ
  tmWday : Fin 7
  isInt : (tmYear + 1900).natAbs ≤ 2 ^ 31

def wday : Fin 7 → String := ["Sun", "Mon", "Tue", "Wed", "Thu", "Fri", "Sat"].get

def wMouth : Fin 12 → String :=
  ["Jan", "Feb", "Mar", "Apr", "May", "Jun", "Jul", "Aug", "Sep", "Oct", "Nov", "Dec"].get

def dateText (t : Tm) : List UInt8 :=
  printf (ascii "%s, %02d %s %d %02d:%02d:%02d GMT")
    [.str (ascii (wday t.tmWday)), .int (t.tmMday : ℕ), .str (ascii (wMouth t.tmMon)),
      .int (t.tmYear + 1900), .int (t.tmHour : ℕ), .int (t.tmMin : ℕ), .int (t.tmSec : ℕ)]

/-- `GetUTCTime`, into `date[64]`. -/
def getUTCTime (t : Tm) : Except Fault (CharArray 63) := sprintf 63 (.ofBuffer (dateText t))

/-! ## The response -/

/-- The table of `GroupRespHttpMsg`. -/
def httpCodes : List (String × ℤ) :=
  [("OK", 200), ("Bad Request", 400), ("Unauthorized", 401), ("Forbidden", 403), ("Not Found", 404),
    ("Method Not Allowed", 405)]

def respHead (name : String × ℤ) (date : List UInt8) (buffLen : ℤ) : List UInt8 :=
  printf (ascii "HTTP/1.1 %d %s\r\nServer: %s\r\nDate: %s\r\nContent-Type: application/json; charset=utf-8;\r\nContent-Length: %d\r\nConnection: close\r\n\r\n")
    [.int name.2, .str (ascii name.1), .str httpmsgServer, .str date, .int buffLen]

/-- `GroupRespHttpMsg`: the result, and what a cleared `out` of that size holds then. -/
def groupRespHttpMsg (t : Tm) (code : ℤ) (buff : CString) (buffLen : ℤ) (size : ℕ) :
    Except Fault (ℤ × CString) :=
  if buffLen < 0 then .ok (keyFalse, .ofBuffer [])
  else
    (getUTCTime t).bind fun date =>
      match httpCodes.find? fun name => code = name.2 with
      | none => .ok (keyFalse, .ofBuffer [])
      | some name =>
          let out := respHead name date.str.bytes buffLen
          -- `sprintf`, and `strcat` behind it
          if size ≤ out.length then .error .badAccess
          else if size ≤ out.length + buff.strlen then .error .badAccess
          else .ok (keyTrue, .ofBuffer (out ++ buff.bytes))

/-- The code that `ParesHttpMsg` makes of the result of `JsonSwitch`. -/
def respCode (iret : ℤ) : ℤ :=
  if iret = keyTrue then 200
  else if iret = 401 then 401
  else if iret = 403 then 403
  else if iret = 404 then 404
  else 400

/-- What `ParesHttpMsg` leaves in `buff`, with the result so far. -/
def switchBody (server : JsonServer) (msg : List UInt8) : Except Fault (ℤ × CString) :=
  match strstr (crlf ++ crlf) msg with
  | none => .ok (keyFalse, .ofBuffer [])
  | some bodyMsg =>
      let bodyMsg := bodyMsg.drop 4
      if bodyMsg = [] then .ok (keyFalse, .ofBuffer [])
      else server.jsonSwitch bodyMsg httpmsgMaxlen

/-- `ParesHttpMsg`, into the cleared `out` of `Requst`. -/
def paresHttpMsg (server : JsonServer) (t : Tm) (msg : CString) : Except Fault (ℤ × CString) := do
  let _ ← getHttpRequstHead msg.bytes
  let (iret, buff) ← switchBody server msg.bytes
  let (_, out) ← groupRespHttpMsg t (respCode iret) buff buff.strlen httpmsgMaxlen
  return (iret, out)

end SmartPlat.HttpAPI
