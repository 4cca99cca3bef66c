import SmartPlat.Common
import SmartPlat.Lib.Bytes

set_option autoImplicit false

/-! # WebSocket frames: `App/WebServer/webserver.c`

`webSocket_enPackage` puts a header in front of a payload and masks it if it is told to;
`ParsingFrameHeader` reads the header of what was received, and `Webumask` takes the mask off. The
arrays are lists of bytes; an access past the end of one is a fault. -/

namespace SmartPlat.WebServer

open SmartPlat.Lib

/-! ## Frames that are sent -/

/-- `Websocket_CommunicationType` -/
inductive WebsocketCommunicationType where
  | WCT_MINDATA
  | WCT_TXTDATA
  | WCT_BINDATA
  | WCT_DISCONN
  | WCT_PING
  | WCT_PONG
  | WCT_ERR
  | WCT_NULL
  deriving DecidableEq, Repr

/-- The first byte of a frame; the last two types have none. -/
def WebsocketCommunicationType.code : WebsocketCommunicationType → Option UInt8
  | WCT_MINDATA => some 0x00
  | WCT_TXTDATA => some 0x81
  | WCT_BINDATA => some 0x82
  | WCT_DISCONN => some 0x88
  | WCT_PING => some 0x89
  | WCT_PONG => some 0x8A
  | WCT_ERR => none
  | WCT_NULL => none

/-- `webSocket_getRandomString(maskKey, 4)`, of what `rand` returns. -/
def webSocketGetRandomString (rand : ℕ → UInt8) : List UInt8 :=
  (List.range 4).map fun i => if rand i = 0 then 128 else rand i

/-- `((~temp1)&temp2) | (temp1&(~temp2))` -/
def maskByte (temp1 temp2 : UInt8) : UInt8 := (~~~temp1 &&& temp2) ||| (temp1 &&& ~~~temp2)

/-- What is written from `package[1]` on for the length, into a byte that holds `byte`; `none` where the
    function returns -1. There is no branch for the greatest `unsigned int`. -/
def lengthBytes (byte : UInt8) (dataLen packageMaxLen : ℕ) : Option (List UInt8) :=
  if dataLen < 126 then some [byte ||| UInt8.ofNat dataLen]
  else if dataLen < 65536 then
    if packageMaxLen < 4 then none
    else some [byte ||| 0x7E, UInt8.ofNat (dataLen / 256), UInt8.ofNat dataLen]
  else if dataLen < 0xFFFFFFFF then
    if packageMaxLen < 10 then none
    else
      some [byte ||| 0x7F, 0, 0, 0, 0, UInt8.ofNat (dataLen / 16777216),
        UInt8.ofNat (dataLen / 65536), UInt8.ofNat (dataLen / 256), UInt8.ofNat dataLen]
  else some []

/-- The bytes written to `package` one after the other. -/
def fillPackage (package bytes : List UInt8) : Except Fault (List UInt8) :=
  if bytes.length ≤ package.length then .ok (bytes ++ package.drop bytes.length)
  else .error .badAccess

/-- An `unsigned int` as the `int` that is returned. -/
def toInt32 (n : ℕ) : ℤ := (n : ℤ).bmod (2 ^ 32)

/-- `webSocket_enPackage`: the return value and `package`. The second byte is only or-ed to when the
    frame is not masked; a NUL is written behind the frame, and not counted. -/
def webSocketEnPackage (data package : List UInt8) (packageMaxLen : ℕ) (isMask : Bool)
    (type : WebsocketCommunicationType) (rand : ℕ → UInt8) : Except Fault (ℤ × List UInt8) :=
  let dataLen := data.length
  if packageMaxLen < 2 then .ok (-1, package)
  else
    match type.code with
    | none => .ok (-1, package)
    | some code =>
        match lengthBytes (if isMask then 0x80 else byteAt package 1) dataLen packageMaxLen with
        | none =>
            (fillPackage package (if isMask then [code, 0x80] else [code])).map fun p => (-1, p)
        | some lenBytes =>
            let head := code :: lenBytes
            if isMask then
              if packageMaxLen < (head.length + dataLen + 4) % 2 ^ 32 then
                (fillPackage package head).map fun p => (-1, p)
              else
                let maskKey := webSocketGetRandomString rand
                let masked := data.mapIdx fun i b => maskByte (byteAt maskKey (i % 4)) b
                (fillPackage package (head ++ maskKey ++ masked ++ [0])).map fun p =>
                  (toInt32 (head.length + 4 + dataLen), p)
            else if packageMaxLen < (head.length + dataLen) % 2 ^ 32 then
              (fillPackage package head).map fun p => (-1, p)
            else
              (fillPackage package (head ++ data ++ [0])).map fun p =>
                (toInt32 (head.length + dataLen), p)

/-! ## Frames that are received -/

/-- `FramHead_T` -/
structure FramHead where
  fin : Bool
  opcode : UInt8
  mask : Bool
  headLen : ℕ
  payloadLength : ℕ
  maskingKey : List UInt8
  deriving DecidableEq, Repr

/-- `FramHead_T head = {0}` -/
def FramHead.zero : FramHead := ⟨false, 0, false, 0, 0, [0, 0, 0, 0]⟩

/-- The loop that turns the eight bytes of a long length round in the receive buffer. -/
def reverseLength (recvMsg : List UInt8) : List UInt8 :=
  (List.range 4).foldl (fun msg i =>
    (msg.set (2 + i) (byteAt msg (2 + (7 - i)))).set (2 + (7 - i)) (byteAt msg (2 + i))) recvMsg

/-- The first two bytes of a frame, with the length that fits into the second. -/
def readFirstBytes (recvMsg : List UInt8) (head : FramHead) : FramHead :=
  { head with
    fin := byteAt recvMsg 0 &&& 0x80 = 0x80
    opcode := byteAt recvMsg 0 &&& 0x0F
    mask := byteAt recvMsg 1 &&& 0x80 = 0x80
    payloadLength := (byteAt recvMsg 1 &&& 0x7F).toNat }

/-- The end of `ParsingFrameHeader`: the key is read at `readCount`, masked or not. -/
def readMaskingKey (recvMsg : List UInt8) (readCount : ℕ) (head : FramHead) :
    Except Fault (ℤ × FramHead × List UInt8) :=
  if recvMsg.length < readCount + 4 then .error .badAccess
  else
    .ok (0, { head with
      maskingKey := (recvMsg.drop readCount).take 4
      headLen := readCount + 4 }, recvMsg)

/-- `ParsingFrameHeader`: the return value, the head and the receive buffer. The `memcpy` of a long
    length puts its low half into `payload_length` and its high half into the key behind, which is
    read later. -/
def parsingFrameHeader (recvMsg : List UInt8) (recvLen : ℤ) (head : FramHead) :
    Except Fault (ℤ × FramHead × List UInt8) :=
  if recvLen ≤ 0 then .ok (-1, head, recvMsg)
  else if recvMsg.length < 2 then .error .badAccess
  else
    let head := readFirstBytes recvMsg head
    if head.payloadLength = 126 then
      if recvMsg.length < 4 then .error .badAccess
      else
        readMaskingKey recvMsg 4 { head with
          payloadLength := 256 * (byteAt recvMsg 2).toNat + (byteAt recvMsg 3).toNat }
    else if head.payloadLength = 127 then
      if recvMsg.length < 10 then .error .badAccess
      else
        let recvMsg := reverseLength recvMsg
        readMaskingKey recvMsg 10 { head with payloadLength := uint32At recvMsg 2 }
    else readMaskingKey recvMsg 2 head

/-- `Webumask(&data[start], len, mask)` -/
def webumask (data : List UInt8) (start : ℕ) (len : ℤ) (mask : List UInt8) :
    Except Fault (List UInt8) :=
  if data.length < start + len.toNat then .error .badAccess
  else
    .ok (data.take start ++
      ((data.drop start).take len.toNat).mapIdx (fun i b => b ^^^ byteAt mask (i % 4)) ++
        data.drop (start + len.toNat))

/-- What `WebRequst` does to a message that is no handshake before it looks at the payload: the head,
    and the receive buffer, in which the payload starts at `headLen`. -/
def unmaskFrame (recvMsg : List UInt8) (recvLen : ℤ) : Except Fault (FramHead × List UInt8) :=
  (parsingFrameHeader recvMsg recvLen .zero).bind fun r =>
    (webumask r.2.2 r.2.1.headLen (toInt32 r.2.1.payloadLength) r.2.1.maskingKey).map fun msg =>
      (r.2.1, msg)

end SmartPlat.WebServer
