import SmartPlat.Lib.Sha1
import SmartPlat.PolarSsl
import SmartPlat.WebServer.Links

set_option autoImplicit false

/-! # The handshake and the bytes of a message: `App/WebServer/webserver.c`

`WebSocketAuthentication` hashes the key of the client and a constant, and sends the hash back as
base64. -/

namespace SmartPlat.WebServer

open SmartPlat.Lib

/-- `MAGIC` -/
def magic : List UInt8 := ascii "258EAFA5-E914-47DA-95CA-C5AB0DC85B11"

/-- The format of `response`, with the value that is put into it. -/
def responseText (wsAccept : List UInt8) : List UInt8 :=
  ascii "HTTP/1.1 101 Switching Protocols\r\nUpgrade: websocket\r\nConnection: Upgrade\r\nSec-WebSocket-Accept: "
    ++ wsAccept ++ ascii "\r\n\r\n"

/-- `WebSocketAuthentication`: what is written to the socket. `wsAcceptLen` is an `int`, of which
    `base64_encode` reads a `size_t`: the upper half is what is `behind` it. -/
def webSocketAuthentication (behind : UInt32) (webSocketKey : CharArray 511) : Except Fault (List UInt8) := do
  let wsKeyAndMagic := snprintf 1023 (.ofBuffer (webSocketKey.str.bytes ++ magic))
  let sha1Data ← (CharBuffer.zeros 21).memcpy (Sha1.sha1 wsKeyAndMagic.str.bytes)
  let wsAcceptLen := 0 + 2 ^ 32 * behind.toNat
  let r ← base64Encode (.zeros 32) wsAcceptLen sha1Data.str.bytes
  let response ← sprintf 1023 (.ofBuffer (responseText r.2.1.str.bytes))
  return response.str.bytes

end SmartPlat.WebServer

/-! ## What is accessed of a message

`WebRequst` on just the bytes that have been received. They end without a terminator, so that a function
that looks for one may go on behind them. -/

namespace SmartPlat.WebServer.Received

open SmartPlat.Lib

/-- Ways in which `WebRequst` leaves an array. -/
inductive Outside where
  /-- An access behind the bytes that have been received. -/
  | message
  /-- `webSocketKey[512]` is written past its end. -/
  | webSocketKey
  deriving DecidableEq, Repr

/-- The text that starts a message, up to its terminator. -/
def strOf (recvmsg : List UInt8) : Except Outside (List UInt8) :=
  if 0 ∈ recvmsg then .ok (CString.ofBuffer recvmsg).bytes else .error .message

/-- `GetHttpWebSocketKey`. `strstr` goes on to the terminator if it does not find the name, and `strlen`
    does if it does. -/
def getHttpWebSocketKey (recvmsg : List UInt8) : Except Outside (List UInt8) :=
  (strOf recvmsg).bind fun str =>
    match strstr (ascii "Sec-WebSocket-Key") str with
    | none => .ok []
    | some pHead =>
        let host := usrGetvalueBtweenpoint (pHead.drop 18)
        if 512 < host.length then .error .webSocketKey else .ok host

/-- `ParsingFrameHeader` and `Webumask`, with the length that was received. -/
def unmask (recvmsg : List UInt8) : Except Outside (FramHead × List UInt8) :=
  match unmaskFrame recvmsg recvmsg.length with
  | .error _ => .error .message
  | .ok r => .ok r

/-- `WebRequst`. `parse` is `cJSON_Parse` on the rest of a message, of which it may read too much. -/
def webRequst (parse : List UInt8 → Except Outside (Option CJson)) (recvSocket : ℤ) (recvmsg : List UInt8) :
    Except Outside (Option LinkInfo) :=
  (getHttpWebSocketKey recvmsg).bind fun webSocketKey =>
    if webSocketKey.length ≠ 0 then .ok none
    else
      (unmask recvmsg).bind fun r =>
        let payload := r.2.drop r.1.headLen
        (parse payload).map fun json =>
          some (parasingFrameRequest (fun _ => json) payload { LinkInfo.zero with socket := recvSocket })

end SmartPlat.WebServer.Received
