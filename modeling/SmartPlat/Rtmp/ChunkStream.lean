import SmartPlat.Lib.Bytes
import SmartPlat.Lib.Wire
import SmartPlat.Rtmp.VideoPackets

set_option autoImplicit false

/-! # Chunks: `ExtLibs/librtmp/src/rtmp.c`

`RTMP_SendPacket` cuts the body of a packet into chunks and leaves out of the headers what the packet before
it on its channel had as well; `RTMP_ReadPacket` reads one chunk and keeps what it knows of each channel. The
connection takes what is written (it is no HTTP tunnel), `malloc` does not fail, and a body has less than
`2 ^ 31` bytes. A place outside the tables of the channels or the body is a fault. -/

namespace SmartPlat.Rtmp

open SmartPlat.Lib

inductive RtmpStop where
  /-- `return FALSE` -/
  | refused
  | fault (fault : Fault)
  deriving DecidableEq, Repr

def RTMP_CHANNELS : ℕ := 65600

def RTMP_DEFAULT_CHUNKSIZE : ℕ := 128

def RTMP_PACKET_TYPE_CHUNK_SIZE : ℕ := 0x01

def RTMP_PACKET_SIZE_SMALL : ℕ := 2

def RTMP_PACKET_SIZE_MINIMUM : ℕ := 3

/-- `packetSize[headerType]` -/
def packetSize : ℕ → ℕ
  | 0 => 12
  | 1 => 8
  | 2 => 4
  | _ => 1

/-! ## Numbers: `ExtLibs/librtmp/src/amf.c` -/

def amfEncodeInt24 (nVal : ℕ) : List UInt8 := bytesOf 3 nVal

def amfEncodeInt32 (nVal : ℕ) : List UInt8 := bytesOf 4 nVal

def amfDecodeInt24 (data : List UInt8) : ℕ := ofBytes (data.take 3)

def amfDecodeInt32 (data : List UInt8) : ℕ := ofBytes (data.take 4)

def encodeInt32LE (nVal : ℤ) : List UInt8 := int32Bytes nVal

def decodeInt32LE (data : List UInt8) : ℤ := int32At data 0

/-! ## `RTMP_SendPacket` -/

/-- An `int` that can be the size of a chunk. -/
structure ChunkSize where
  bytes : ℕ
  pos : 0 < bytes
  fits : bytes < 2 ^ 31
  deriving DecidableEq

/-- What `RTMP` keeps for sending. -/
structure RtmpOut where
  m_outChunkSize : ChunkSize
  m_vecChannelsOut : ℕ → Option RtmpPacket

/-- As `RTMP_Init` leaves it. -/
def RtmpOut.init : RtmpOut where
  m_outChunkSize := ⟨RTMP_DEFAULT_CHUNKSIZE, by decide, by decide⟩
  m_vecChannelsOut _ := none

/-- "compress a bit by using the prev packet's attributes": the header type, and `last`. -/
def compress (prevPacket : Option RtmpPacket) (packet : RtmpPacket) : ℕ × ℕ :=
  match prevPacket with
  | none => (packet.m_headerType, 0)
  | some prev =>
      if packet.m_headerType = RTMP_PACKET_SIZE_LARGE then (packet.m_headerType, 0)
      else
        let headerType :=
          if prev.m_body.length = packet.m_body.length ∧ prev.m_packetType = packet.m_packetType ∧
              packet.m_headerType = RTMP_PACKET_SIZE_MEDIUM then RTMP_PACKET_SIZE_SMALL
          else packet.m_headerType
        (if prev.m_nTimeStamp = packet.m_nTimeStamp ∧ headerType = RTMP_PACKET_SIZE_SMALL then
            RTMP_PACKET_SIZE_MINIMUM
          else headerType,
          prev.m_nTimeStamp)

/-- `cSize` -/
def channelSize (m_nChannel : ℕ) : ℕ :=
  if m_nChannel > 319 then 2 else if m_nChannel > 63 then 1 else 0

/-- `c` -/
def channelByte (headerType m_nChannel : ℕ) : UInt8 :=
  .ofNat (headerType <<< 6 |||
    match channelSize m_nChannel with
    | 0 => m_nChannel
    | 1 => 0
    | _ => 1)

/-- What follows `c`: `tmp & 0xff` and `tmp >> 8`. -/
def channelBytes (m_nChannel : ℕ) : List UInt8 :=
  match channelSize m_nChannel with
  | 0 => []
  | 1 => [.ofNat (m_nChannel - 64 &&& 0xff)]
  | _ => [.ofNat (m_nChannel - 64 &&& 0xff), .ofNat ((m_nChannel - 64) >>> 8)]

def firstHeader (headerType t : ℕ) (packet : RtmpPacket) : List UInt8 :=
  let nSize := packetSize headerType
  channelByte headerType packet.m_nChannel :: channelBytes packet.m_nChannel ++
    (if nSize > 1 then amfEncodeInt24 (if t > 0xffffff then 0xffffff else t) else []) ++
    (if nSize > 4 then amfEncodeInt24 packet.m_body.length ++ [.ofNat packet.m_packetType] else []) ++
    (if nSize > 8 then encodeInt32LE packet.m_nInfoField2 else []) ++
    if nSize > 1 ∧ t ≥ 0xffffff then amfEncodeInt32 t else []

/-- The header of a chunk behind the first. With a long timestamp it starts four bytes earlier, but the
    timestamp is put over the last byte of the channel, and in front of the chunk stays `stale`, the last
    byte of the chunk before. -/
def nextHeader (headerType m_nChannel t : ℕ) (stale : UInt8) : List UInt8 :=
  let c := 0xc0 ||| channelByte headerType m_nChannel
  if t ≥ 0xffffff then
    match channelSize m_nChannel with
    | 0 => c :: amfEncodeInt32 t
    | 1 => c :: amfEncodeInt32 t ++ [stale]
    | _ => c :: .ofNat (m_nChannel - 64 &&& 0xff) :: amfEncodeInt32 t ++ [stale]
  else c :: channelBytes m_nChannel

/-- `while (nSize + hSize)`, in `fuel` rounds at most: what is written. -/
def sendLoop (nChunkSize : ChunkSize) (next : UInt8 → List UInt8) :
    ℕ → List UInt8 → List UInt8 → Except RtmpStop (List UInt8)
  | 0, _, _ => .error (.fault .timeout)
  | fuel + 1, header, buffer =>
      let chunk := buffer.take nChunkSize.bytes
      if buffer.drop nChunkSize.bytes = [] then .ok (header ++ chunk)
      else do
        let more ← sendLoop nChunkSize next fuel (next (chunk.getLastD 0)) (buffer.drop nChunkSize.bytes)
        return header ++ chunk ++ more

/-- `packet->m_nTimeStamp - last` -/
def timeSince (last m_nTimeStamp : ℕ) : ℕ := (m_nTimeStamp + 2 ^ 32 - last) % 2 ^ 32

/-- `RTMP_SendPacket`, with what it writes. The list of the calls that wait for an answer is left out. -/
def rtmpSendPacket (r : RtmpOut) (packet : RtmpPacket) : Except RtmpStop (List UInt8 × RtmpOut) :=
  if packet.m_nChannel < RTMP_CHANNELS then
    let (headerType, last) := compress (r.m_vecChannelsOut packet.m_nChannel) packet
    if headerType > 3 then .error .refused
    else do
      let t := timeSince last packet.m_nTimeStamp
      let sent ← sendLoop r.m_outChunkSize (nextHeader headerType packet.m_nChannel t)
        (packet.m_body.length + 1) (firstHeader headerType t packet) packet.m_body
      return (sent, { r with
        m_vecChannelsOut := Function.update r.m_vecChannelsOut packet.m_nChannel
          (some { packet with m_headerType := headerType }) })
  else .error (.fault .badAccess)

/-- The packet of `RTMP_SendChunkSize`. -/
def chunkSizePacket (chunk_size : ChunkSize) : RtmpPacket where
  m_headerType := RTMP_PACKET_SIZE_LARGE
  m_packetType := RTMP_PACKET_TYPE_CHUNK_SIZE
  m_nChannel := 0x02
  m_nTimeStamp := 0
  m_nInfoField2 := 0
  m_body := amfEncodeInt32 chunk_size.bytes

/-- `RTMP_SendChunkSize`: the new size is in use before the packet is sent. -/
def rtmpSendChunkSize (r : RtmpOut) (chunk_size : ChunkSize) : Except RtmpStop (List UInt8 × RtmpOut) :=
  rtmpSendPacket { r with m_outChunkSize := chunk_size } (chunkSizePacket chunk_size)

/-- The calls that send. -/
inductive RtmpSend where
  /-- `RTMP_SendPacket` -/
  | packet (packet : RtmpPacket)
  /-- `RTMP_SendChunkSize` -/
  | chunkSize (chunk_size : ChunkSize)
  deriving DecidableEq

def RtmpOut.send (r : RtmpOut) : RtmpSend → Except RtmpStop (List UInt8 × RtmpOut)
  | .packet p => rtmpSendPacket r p
  | .chunkSize size => rtmpSendChunkSize r size

/-! ## `RTMP_ReadPacket` -/

/-- `RTMPPacket` with the block from `RTMPPacket_Alloc` for `m_body`. -/
structure RtmpPacketIn where
  m_headerType : ℕ
  m_packetType : ℕ
  m_hasAbsTimestamp : Bool
  m_nChannel : ℕ
  m_nTimeStamp : ℕ
  m_nInfoField2 : ℤ
  m_nBodySize : ℕ
  m_nBytesRead : ℕ
  m_body : Option (List UInt8)
  deriving DecidableEq, Repr

/-- `RTMPPacket packet = { 0 }` -/
def RtmpPacketIn.zero : RtmpPacketIn := ⟨0, 0, false, 0, 0, 0, 0, 0, none⟩

/-- `RTMPPacket_IsReady` -/
def RtmpPacketIn.isReady (packet : RtmpPacketIn) : Bool := packet.m_nBytesRead = packet.m_nBodySize

/-- What `RTMP` keeps for reading. `m_channelTimestamp` is only added to an `uint32_t` here. -/
structure RtmpIn where
  m_inChunkSize : ℤ
  m_vecChannelsIn : ℕ → Option RtmpPacketIn
  m_channelTimestamp : ℕ → ℕ

/-- As `RTMP_Init` leaves it. -/
def RtmpIn.init : RtmpIn where
  m_inChunkSize := RTMP_DEFAULT_CHUNKSIZE
  m_vecChannelsIn _ := none
  m_channelTimestamp _ := 0

/-- `ReadN`, from the bytes the peer still sends. -/
def readN (n : ℕ) (wire : List UInt8) : Except RtmpStop (List UInt8 × List UInt8) :=
  if n ≤ wire.length then .ok (wire.take n, wire.drop n) else .error .refused

/-- The header type and the channel. -/
def readChannel (wire : List UInt8) : Except RtmpStop (ℕ × ℕ × List UInt8) := do
  let (hbuf, wire) ← readN 1 wire
  let headerType := ((byteAt hbuf 0 &&& 0xc0) >>> 6).toNat
  let m_nChannel := (byteAt hbuf 0 &&& 0x3f).toNat
  if m_nChannel = 0 then
    let (hbuf, wire) ← readN 1 wire
    return (headerType, (byteAt hbuf 0).toNat + 64, wire)
  else if m_nChannel = 1 then
    let (hbuf, wire) ← readN 2 wire
    return (headerType, (byteAt hbuf 1).toNat <<< 8 + (byteAt hbuf 0).toNat + 64, wire)
  else return (headerType, m_nChannel, wire)

/-- "using values from the last message of this channel" -/
def RtmpIn.startPacket (r : RtmpIn) (headerType m_nChannel : ℕ) (packet : RtmpPacketIn) : RtmpPacketIn :=
  let packet := { packet with m_headerType := headerType, m_nChannel := m_nChannel }
  if packetSize headerType = 12 then { packet with m_hasAbsTimestamp := true }
  else (r.m_vecChannelsIn m_nChannel).getD packet

/-- What the `nSize` bytes behind the channel say, three at least. -/
def RtmpPacketIn.withFields (nSize : ℕ) (header : List UInt8) (packet : RtmpPacketIn) : RtmpPacketIn :=
  let packet := { packet with m_nTimeStamp := amfDecodeInt24 header }
  if nSize ≥ 6 then
    let packet := { packet with
      m_nBodySize := amfDecodeInt24 (header.drop 3), m_nBytesRead := 0, m_body := none }
    if nSize > 6 then
      let packet := { packet with m_packetType := (byteAt header 6).toNat }
      if nSize = 11 then { packet with m_nInfoField2 := decodeInt32LE (header.drop 7) } else packet
    else packet
  else packet

/-- These bytes and the extended timestamp. -/
def readFields (headerType : ℕ) (packet : RtmpPacketIn) (wire : List UInt8) :
    Except RtmpStop (RtmpPacketIn × List UInt8) := do
  let nSize := packetSize headerType - 1
  let (header, wire) ← readN nSize wire
  if nSize ≥ 3 then
    let packet := packet.withFields nSize header
    if packet.m_nTimeStamp = 0xffffff then
      let (header, wire) ← readN 4 wire
      return ({ packet with m_nTimeStamp := amfDecodeInt32 header }, wire)
    else return (packet, wire)
  else return (packet, wire)

/-- `if (packet->m_nBodySize > 0 && packet->m_body == NULL)` -/
def RtmpPacketIn.alloc (headerType : ℕ) (packet : RtmpPacketIn) : RtmpPacketIn :=
  if packet.m_nBodySize > 0 ∧ packet.m_body = none then
    { packet with
      m_body := some (List.replicate packet.m_nBodySize 0), m_nBytesRead := 0, m_headerType := headerType }
  else packet

/-- Bytes read to a place of the block. -/
def putBody (m_body : Option (List UInt8)) (place : ℕ) (chunk : List UInt8) :
    Except RtmpStop (Option (List UInt8)) :=
  match m_body with
  | none => if chunk = [] then .ok none else .error (.fault .badAccess)
  | some block =>
      if place + chunk.length ≤ block.length then
        .ok (some (block.take place ++ chunk ++ block.drop (place + chunk.length)))
      else .error (.fault .badAccess)

/-- The bytes of the body in this chunk. `ReadN` of a negative size reads nothing, and is no success. -/
def RtmpIn.readBody (r : RtmpIn) (packet : RtmpPacketIn) (wire : List UInt8) :
    Except RtmpStop (RtmpPacketIn × List UInt8) := do
  let nToRead : ℤ := packet.m_nBodySize - packet.m_nBytesRead
  let nChunk := if nToRead < r.m_inChunkSize then nToRead else r.m_inChunkSize
  if nChunk < 0 then .error .refused
  else
    let (chunk, wire) ← readN nChunk.toNat wire
    let m_body ← putBody packet.m_body packet.m_nBytesRead chunk
    return ({ packet with m_body := m_body, m_nBytesRead := packet.m_nBytesRead + nChunk.toNat }, wire)

/-- "keep the packet as ref for other packets on this channel" -/
def RtmpIn.keep (r : RtmpIn) (packet : RtmpPacketIn) : RtmpIn × RtmpPacketIn :=
  if packet.isReady then
    let m_nTimeStamp :=
      if packet.m_hasAbsTimestamp then packet.m_nTimeStamp
      else (packet.m_nTimeStamp + r.m_channelTimestamp packet.m_nChannel) % 2 ^ 32
    ({ r with
        m_vecChannelsIn := Function.update r.m_vecChannelsIn packet.m_nChannel
          (some { packet with m_body := none, m_nBytesRead := 0, m_hasAbsTimestamp := false })
        m_channelTimestamp := Function.update r.m_channelTimestamp packet.m_nChannel m_nTimeStamp },
      { packet with m_nTimeStamp := m_nTimeStamp })
  else
    ({ r with m_vecChannelsIn := Function.update r.m_vecChannelsIn packet.m_nChannel (some packet) },
      { packet with m_body := none })

/-- `m_vecChannelsIn[m_nChannel]` and `m_channelTimestamp[m_nChannel]` -/
def checkChannel (m_nChannel : ℕ) : Except RtmpStop Unit :=
  if m_nChannel < RTMP_CHANNELS then .ok () else .error (.fault .badAccess)

/-- `RTMP_ReadPacket`, with what is left to read. The header has at most `3 + 11 + 4` bytes, which is
    `RTMP_MAX_HEADER_SIZE`. -/
def rtmpReadPacket (r : RtmpIn) (packet : RtmpPacketIn) (wire : List UInt8) :
    Except RtmpStop ((RtmpIn × RtmpPacketIn) × List UInt8) := do
  let (headerType, m_nChannel, wire) ← readChannel wire
  checkChannel m_nChannel
  let (packet, wire) ← readFields headerType (r.startPacket headerType m_nChannel packet) wire
  let (packet, wire) ← r.readBody (packet.alloc headerType) wire
  checkChannel packet.m_nChannel
  return (r.keep packet, wire)

/-! ## The loops over `RTMP_ReadPacket` -/

/-- `while (RTMP_ReadPacket(r, packet))` until `RTMPPacket_IsReady(packet)`, in `fuel` rounds at most. -/
def readReady : ℕ → RtmpIn → RtmpPacketIn → List UInt8 →
    Except RtmpStop ((RtmpIn × RtmpPacketIn) × List UInt8)
  | 0, _, _, _ => .error (.fault .timeout)
  | fuel + 1, r, packet, wire => do
      let ((r, packet), wire) ← rtmpReadPacket r packet wire
      if packet.isReady then return ((r, packet), wire) else readReady fuel r packet wire

/-- `HandleChangeChunkSize` -/
def RtmpIn.handleChangeChunkSize (r : RtmpIn) (packet : RtmpPacketIn) : RtmpIn :=
  if packet.m_nBodySize ≥ 4 then
    { r with m_inChunkSize := (amfDecodeInt32 (packet.m_body.getD []) : ℤ).bmod (2 ^ 32) }
  else r

/-- `RTMP_ClientPacket`, as far as the reading of chunks depends on it. -/
def RtmpIn.clientPacket (r : RtmpIn) (packet : RtmpPacketIn) : RtmpIn :=
  if packet.m_packetType = RTMP_PACKET_TYPE_CHUNK_SIZE then r.handleChangeChunkSize packet else r

/-- What a packet says, without how it was sent. -/
structure RtmpMessage where
  m_packetType : ℕ
  m_nChannel : ℕ
  m_nTimeStamp : ℕ
  m_nInfoField2 : ℤ
  m_body : List UInt8
  deriving DecidableEq, Repr

def RtmpPacket.message (packet : RtmpPacket) : RtmpMessage :=
  ⟨packet.m_packetType, packet.m_nChannel, packet.m_nTimeStamp, packet.m_nInfoField2, packet.m_body⟩

def RtmpSend.message : RtmpSend → RtmpMessage
  | .packet p => p.message
  | .chunkSize size => (chunkSizePacket size).message

def RtmpPacketIn.message (packet : RtmpPacketIn) : RtmpMessage :=
  ⟨packet.m_packetType, packet.m_nChannel, packet.m_nTimeStamp, packet.m_nInfoField2, packet.m_body.getD []⟩

/-- One turn of `RTMP_ConnectStream` or `RTMP_GetNextMediaPacket` up to a whole packet, with
    `RTMPPacket_Free(&packet)` behind it. A chunk takes at least one byte. -/
def nextPacket (state : RtmpIn × RtmpPacketIn) (wire : List UInt8) :
    Except RtmpStop (RtmpMessage × (RtmpIn × RtmpPacketIn) × List UInt8) := do
  let ((r, packet), wire) ← readReady (wire.length + 1) state.1 state.2 wire
  return (packet.message, (r.clientPacket packet, { packet with m_body := none }), wire)

end SmartPlat.Rtmp
