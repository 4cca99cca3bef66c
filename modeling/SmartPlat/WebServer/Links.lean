import SmartPlat.CJson
import SmartPlat.Lib.Transition
import SmartPlat.UsrString
import SmartPlat.WebServer.Frames

set_option autoImplicit false

/-! # WebSocket subscribers: `App/WebServer/webserver.c`

The server keeps a list of sockets with the recorder and channel each wants to see. A message of a
browser is a handshake or a frame with a JSON text; `WebSocketSend` pushes a frame of a camera. The
mutexes are taken by one function at a time and are left out. -/

namespace SmartPlat.WebServer

open SmartPlat.Lib

/-! ## The list -/

/-- `LinkInfo_T` -/
structure LinkInfo where
  socket : ℤ
  channel : ℤ
  enable : ℤ
  SerialNumber : CharArray 63
  deriving DecidableEq

/-- `LinkInfo_T linkInfo = {0}` -/
def LinkInfo.zero : LinkInfo := ⟨0, 0, 0, snprintf 63 (.ofBuffer [])⟩

/-- `Inner_WebServerHandle_T` -/
structure InnerWebServerHandle where
  linkListHead : List LinkInfo
  deriving DecidableEq

def InnerWebServerHandle.init : InnerWebServerHandle := ⟨[]⟩

/-- `AddNodeToLink`. No function calls it. -/
def addNodeToLink (info : LinkInfo) (s : InnerWebServerHandle) : ℤ × InnerWebServerHandle :=
  match s.linkListHead.find? fun link => link.socket = info.socket with
  | some _ => (-1, s)
  | none => (keyTrue, ⟨s.linkListHead ++ [info]⟩)

/-- `DelNodeToLink` -/
def delNodeToLink (info : LinkInfo) (s : InnerWebServerHandle) : ℤ × InnerWebServerHandle :=
  match s.linkListHead.find? fun link => link.socket = info.socket with
  | none => (-1, s)
  | some result => (keyTrue, ⟨s.linkListHead.erase result⟩)

/-! ## Messages -/

/-- What `ParasingFrameRequest` reads of a JSON text, if it is one. -/
def parasingFrameRequest (parse : List UInt8 → Option CJson) (msg : List UInt8)
    (linkInfo : LinkInfo) : LinkInfo :=
  match parse (CString.ofBuffer msg).bytes with
  | none => linkInfo
  | some json =>
      { linkInfo with
        enable := json.getObjectItemValueInt (ascii "enable")
        channel := json.getObjectItemValueInt (ascii "channel")
        SerialNumber := (json.getObjectItemValueString 63 (ascii "SerialNumber")).getD
          linkInfo.SerialNumber }

/-- `GetHttpWebSocketKey` into the cleared `webSocketKey[512]`. -/
def getHttpWebSocketKey (recvmsg : List UInt8) : Except Fault CString :=
  (getNamedValue 512 (ascii "Sec-WebSocket-Key") (CString.ofBuffer recvmsg).bytes).map fun key =>
    key.getD (.ofBuffer [])

/-- A message: the payload of a frame, or nothing when it is a handshake. -/
def readMessage (recvmsg : List UInt8) (recvLen : ℤ) : Except Fault (Option (List UInt8)) :=
  (getHttpWebSocketKey recvmsg).bind fun webSocketKey =>
    if webSocketKey.strlen ≠ 0 then .ok none
    else (unmaskFrame recvmsg recvLen).map fun r => some (r.2.drop r.1.headLen)

/-- `WebRequst`: a handshake is answered; what a frame says is read into a local variable, with which
    nothing is done. -/
def webRequst (parse : List UInt8 → Option CJson) (recvSocket : ℤ) (recvmsg : List UInt8)
    (recvLen : ℤ) (s : InnerWebServerHandle) : Except Fault (Option LinkInfo × InnerWebServerHandle) :=
  (readMessage recvmsg recvLen).map fun payload =>
    (payload.map fun msg =>
      parasingFrameRequest parse msg { LinkInfo.zero with socket := recvSocket }, s)

/-- `WebHttpClose` -/
def webHttpClose (sockfd : ℤ) (s : InnerWebServerHandle) : InnerWebServerHandle :=
  (delNodeToLink { LinkInfo.zero with socket := sockfd } s).2

/-- `WebSocketSend`: the socket that is written to, and what is written. -/
def webSocketSend (sendMsg : List UInt8) (SerialNumber : CString) (channel : ℤ) (s : InnerWebServerHandle) :
    Except Fault (Option (ℤ × List UInt8)) :=
  match s.linkListHead.find? fun link =>
      link.SerialNumber.str = SerialNumber ∧ link.channel = channel with
  | none => .ok none
  | some link =>
      let buff := List.replicate (sendMsg.length + 128) 0
      (webSocketEnPackage sendMsg buff (sendMsg.length + 1024) false .WCT_BINDATA fun _ => 0).map
        fun r => some (link.socket, r.2.take r.1.toNat)

/-! ## Runs -/

inductive WebEvent where
  /-- `accept` returns a socket. -/
  | accept (socket : ℤ)
  | requst (socket : ℤ) (recvmsg : List UInt8) (recvLen : ℤ)
  /-- A frame of a camera is pushed; `sent` is what is written. -/
  | send (sendMsg : List UInt8) (SerialNumber : CString) (channel : ℤ)
      (sent : Option (ℤ × List UInt8))
  | close (socket : ℤ)
  deriving DecidableEq

def webStep (parse : List UInt8 → Option CJson) (s : InnerWebServerHandle) : WebEvent → InnerWebServerHandle → Prop
  | .accept _, s' => s' = s
  | .requst socket recvmsg recvLen, s' =>
      ∃ info, webRequst parse socket recvmsg recvLen s = .ok (info, s')
  | .send sendMsg SerialNumber channel sent, s' =>
      webSocketSend sendMsg SerialNumber channel s = .ok sent ∧ s' = s
  | .close socket, s' => s' = webHttpClose socket s

end SmartPlat.WebServer
