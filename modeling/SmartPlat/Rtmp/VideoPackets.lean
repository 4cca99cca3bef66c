import SmartPlat.Common
import SmartPlat.Lib.Marked

set_option autoImplicit false

/-! # Video: `App/Rtmp/rtmpstart.c`

An I frame of the camera is split into its NAL units, and these are sent to the server. A read behind the
frame, an access outside a table or a body and a block that is smaller than what is put into it are faults.
`malloc` does not fail, and what `RTMP_SendPacket` returns is given. -/

namespace SmartPlat.Rtmp

open SmartPlat.Lib

/-- `FrameData` with its `Datalen`, an `unsigned int`. -/
structure VideoFrame where
  bytes : List UInt8
  fits : bytes.length < 2 ^ 32
  deriving DecidableEq

namespace VideoFrame

/-- `Datalen` -/
def Datalen (frame : VideoFrame) : ℕ := frame.bytes.length

/-- `Datalen - 4` -/
def less4 (frame : VideoFrame) : ℕ := (frame.Datalen + (2 ^ 32 - 4)) % 2 ^ 32

/-- `memcpy` from `n` bytes of the frame at `start`. -/
def read (frame : VideoFrame) (start n : ℕ) : Except Fault (List UInt8) :=
  if start + n ≤ frame.Datalen then .ok ((frame.bytes.drop start).take n) else .error .badAccess

end VideoFrame

/-! ## The types of NAL units -/

/-- `nal_unit_type`: the flag of the type with number `n` is `0x01 << n`. -/
inductive NalUnitType where
  | nr | p | dataA | dataB | dataC | idr | sei | sps | pps | delimiter | nalend | streamend | pading
  deriving DecidableEq, Repr

namespace NalUnitType

def flag : NalUnitType → ℕ
  | nr => 0x01 <<< 0
  | p => 0x01 <<< 1
  | dataA => 0x01 <<< 2
  | dataB => 0x01 <<< 3
  | dataC => 0x01 <<< 4
  | idr => 0x01 <<< 5
  | sei => 0x01 <<< 6
  | sps => 0x01 <<< 7
  | pps => 0x01 <<< 8
  | delimiter => 0x01 <<< 9
  | nalend => 0x01 <<< 10
  | streamend => 0x01 <<< 11
  | pading => 0x01 <<< 12

def all : List NalUnitType :=
  [nr, p, dataA, dataB, dataC, idr, sei, sps, pps, delimiter, nalend, streamend, pading]

/-- The type with the flag `0x01 << (b & 0x1f)`, if that is one of them. -/
def ofHeader (b : UInt8) : Option NalUnitType :=
  all.find? fun nut => nut.flag = 0x01 <<< (b &&& 0x1f).toNat

end NalUnitType

/-- The kinds of branches of the `switch`. -/
inductive SliceCase where
  /-- The slice is all that is left of the frame, and the last. -/
  | rest (nut : NalUnitType)
  /-- It ends with the next start code. -/
  | scanned (nut : NalUnitType)
  | skipped
  deriving DecidableEq, Repr

/-- `switch(0x01 << (b & 0x1f))` -/
def sliceCase (b : UInt8) : SliceCase :=
  match NalUnitType.ofHeader b with
  | some .nr => .skipped
  | some .p => .rest .p
  | some .dataA => .skipped
  | some .dataB => .skipped
  | some .dataC => .skipped
  | some .idr => .rest .idr
  | some .sei => .scanned .sei
  | some .sps => .scanned .sps
  | some .pps => .scanned .pps
  | some .delimiter => .scanned .delimiter
  | some .nalend => .skipped
  | some .streamend => .skipped
  | some .pading => .skipped
  | none => .skipped

/-! ## `GetH264FrameSliceInfo` -/

/-- `struct SliceInfo`, with the place in the frame for `Start`. -/
structure SliceInfo where
  Start : ℕ
  SliceLen : ℕ
  nut : NalUnitType
  deriving DecidableEq, Repr

/-- `H264FrameSliceInfo`: the first `SliceNu` elements of the table, which has ten. -/
structure H264FrameSliceInfo where
  pic_width : ℕ
  pic_high : ℕ
  nut : ℕ
  Sliceinfo : List SliceInfo
  room : Sliceinfo.length ≤ 10
  deriving DecidableEq

namespace H264FrameSliceInfo

/-- `memset(SliceInfoData, 0, sizeof(H264FrameSliceInfo))` -/
def zero : H264FrameSliceInfo := ⟨0, 0, 0, [], Nat.zero_le _⟩

/-- What a branch of the `switch` puts into the table and into the other fields. -/
def store (info : H264FrameSliceInfo) (s : SliceInfo) : Except Fault H264FrameSliceInfo :=
  if h : info.Sliceinfo.length < 10 then
    .ok {
      pic_width := if s.nut = .sps then 720 else info.pic_width
      pic_high := if s.nut = .sps then 576 else info.pic_high
      nut := info.nut ||| s.nut.flag
      Sliceinfo := info.Sliceinfo ++ [s]
      room := by rw [List.length_append]; exact h }
  else .error .badAccess

/-- `Sliceinfo[i]`, nothing when the element is as `memset` left it. -/
def entry (info : H264FrameSliceInfo) (i : ℕ) : Except Fault (Option SliceInfo) :=
  if i < 10 then .ok info.Sliceinfo[i]? else .error .badAccess

end H264FrameSliceInfo

/-- `data[0] == pattern[0] && data[1] == pattern[1] && ..` -/
def startsWith : List UInt8 → List UInt8 → Except Fault Bool
  | [], _ => .ok true
  | _ :: _, [] => .error .badAccess
  | c :: pattern, b :: data => if b = c then startsWith pattern data else .ok false

def startCode : Mark UInt8 := ⟨[0x00, 0x00, 0x00, 0x01], by decide, by decide⟩

/-- `FindStartPlace` -/
def findStartPlace (data : List UInt8) : Except Fault Bool := startsWith startCode.symbols data

/-- `for (SliceLen = 0;!FindStartPlace(&FrameData[DataPlace]);DataPlace++, SliceLen++);` -/
def sliceEnd (SliceLen : ℕ) : List UInt8 → Except Fault ℕ
  | [] => .error .badAccess
  | b :: data =>
      match findStartPlace (b :: data) with
      | .error e => .error e
      | .ok true => .ok SliceLen
      | .ok false => sliceEnd (SliceLen + 1) data

/-- The outer loop, in `fuel` rounds at most. -/
def sliceLoop (frame : VideoFrame) : ℕ → ℕ → H264FrameSliceInfo → Except Fault H264FrameSliceInfo
  | 0, _, _ => .error .timeout
  | fuel + 1, DataPlace, info =>
      if DataPlace < frame.less4 then do
        if ← findStartPlace (frame.bytes.drop DataPlace) then
          match frame.bytes[DataPlace + 4]? with
          | none => .error .badAccess
          | some b =>
              match sliceCase b with
              | .rest nut => info.store ⟨DataPlace + 4, frame.Datalen - (DataPlace + 4), nut⟩
              | .scanned nut => do
                  -- `Start` and `nut` are written before the inner loop, which has no bound of its own.
                  let SliceLen ← sliceEnd 0 (frame.bytes.drop (DataPlace + 4))
                  let info ← info.store ⟨DataPlace + 4, SliceLen, nut⟩
                  sliceLoop frame fuel (DataPlace + 4 + SliceLen) info
              | .skipped => sliceLoop frame fuel (DataPlace + 4 + 1) info
        else sliceLoop frame fuel (DataPlace + 1) info
      else .ok info

/-- `GetH264FrameSliceInfo`, which returns `0`. -/
def getH264FrameSliceInfo (frame : VideoFrame) : Except Fault H264FrameSliceInfo :=
  sliceLoop frame (frame.Datalen + 1) 0 .zero

/-! ## The packets -/

/-- `RTMPPacket`, with its body for `m_nBodySize` and `m_body`; `m_hasAbsTimestamp` is `0`. -/
structure RtmpPacket where
  m_headerType : ℕ
  m_packetType : ℕ
  m_nChannel : ℕ
  m_nTimeStamp : ℕ
  m_nInfoField2 : ℤ
  m_body : List UInt8
  deriving DecidableEq, Repr

def RTMP_PACKET_TYPE_AUDIO : ℕ := 0x08

def RTMP_PACKET_TYPE_VIDEO : ℕ := 0x09

def RTMP_PACKET_SIZE_LARGE : ℕ := 0

def RTMP_PACKET_SIZE_MEDIUM : ℕ := 1

def API_FRAME_TYPE_P : ℕ := 0x61

def API_FRAME_TYPE_I : ℕ := 0x65

/-- `(n >> shift) & 0xff` -/
def byteOf (n shift : ℕ) : UInt8 := .ofNat (n >>> shift &&& 0xff)

variable (m_stream_id : ℤ) (frame : VideoFrame)

/-- The packet of `SendVideoSpsPps`, whose body has 1024 bytes. Without a picture parameter set `pps` is
    null and `pps_len` is `0`. -/
def sendVideoSpsPps (pps : Option SliceInfo) (sps : SliceInfo) (nTimeStamp : ℕ) : Except Fault RtmpPacket := do
  let profile ← frame.read (sps.Start + 1) 3
  let spsBytes ← frame.read sps.Start sps.SliceLen
  let pps_len := pps.elim 0 SliceInfo.SliceLen
  let ppsBytes ← pps.elim (.ok []) fun pps => frame.read pps.Start pps.SliceLen
  let body :=
    [0x17, 0x00, 0x00, 0x00, 0x00, 0x01] ++ profile ++ [0xff] ++
      [0xe1, byteOf sps.SliceLen 8, byteOf sps.SliceLen 0] ++ spsBytes ++
      [0x01, byteOf pps_len 8, byteOf pps_len 0] ++ ppsBytes
  if body.length ≤ 1024 then
    return {
      m_headerType := RTMP_PACKET_SIZE_MEDIUM
      m_packetType := RTMP_PACKET_TYPE_VIDEO
      m_nChannel := 0x04
      m_nTimeStamp := nTimeStamp
      m_nInfoField2 := m_stream_id
      m_body := body }
  else .error .badAccess

/-- The packet of `SendRtmpPacket`. -/
def sendRtmpPacket (nPacketType : ℕ) (data : List UInt8) (nTimestamp : ℕ) : RtmpPacket where
  m_headerType :=
    if nPacketType = RTMP_PACKET_TYPE_AUDIO ∧ data.length ≠ 4 then RTMP_PACKET_SIZE_MEDIUM
    else RTMP_PACKET_SIZE_LARGE
  m_packetType := nPacketType
  m_nChannel := if nPacketType = RTMP_PACKET_TYPE_AUDIO then 0x05 else 0x04
  m_nTimeStamp := nTimestamp
  m_nInfoField2 := m_stream_id
  m_body := data

/-- The packet of `RtmpPushVideoData`, from `malloc(datasize + 9 + 1)`. -/
def rtmpPushVideoData (frametype start datasize nTimestamp : ℕ) : Except Fault RtmpPacket := do
  if (datasize + 9 + 1) % 2 ^ 32 < 9 + datasize then .error .badAccess
  else
    let data ← frame.read start datasize
    let body :=
      [if frametype = API_FRAME_TYPE_I then 0x17 else 0x27, 0x01, 0x00, 0x00, 0x00,
        byteOf datasize 24, byteOf datasize 16, byteOf datasize 8, byteOf datasize 0] ++ data
    return sendRtmpPacket m_stream_id RTMP_PACKET_TYPE_VIDEO body nTimestamp

/-! ## `PushVideoData` -/

/-- The calls of `PushVideoData`. -/
inductive RtmpCall where
  /-- `SendVideoSpsPps` -/
  | spsPps (pps : Option SliceInfo) (sps : SliceInfo)
  /-- `RtmpPushVideoData` -/
  | video (frametype start datasize : ℕ)
  deriving DecidableEq, Repr

def RtmpCall.packet (timestamp : ℕ) : RtmpCall → Except Fault RtmpPacket
  | .spsPps pps sps => sendVideoSpsPps m_stream_id frame pps sps timestamp
  | .video frametype start datasize =>
      rtmpPushVideoData m_stream_id frame frametype start datasize timestamp

/-- `for(i = 0; i < SliceInfo.SliceNu; i++)`, from `i` on: what is returned, and the calls. `sent i` is what
    the call for element `i` returns. -/
def pushSlices (sent : ℕ → ℤ) (info : H264FrameSliceInfo) :
    ℕ → List SliceInfo → ℤ → Except Fault (ℤ × List RtmpCall)
  | _, [], ret => .ok (ret, [])
  | i, s :: slices, ret =>
      if s.nut.flag &&& NalUnitType.sps.flag ≠ 0 then do
        let pps ← info.entry (i + 1)
        if sent i ≤ 0 then return (-1, [.spsPps pps s])
        let (ret, calls) ← pushSlices sent info (i + 1) slices (sent i)
        return (ret, .spsPps pps s :: calls)
      else if s.nut.flag &&& NalUnitType.idr.flag ≠ 0 then do
        let (ret, calls) ← pushSlices sent info (i + 1) slices (sent i)
        return (ret, .video API_FRAME_TYPE_I s.Start s.SliceLen :: calls)
      else pushSlices sent info (i + 1) slices ret

/-- What `PushVideoData` returns, and its calls in order. -/
def videoCalls (sent : ℕ → ℤ) (type : ℕ) : Except Fault (ℤ × List RtmpCall) :=
  if type = API_FRAME_TYPE_I then do
    let info ← getH264FrameSliceInfo frame
    pushSlices sent info 0 info.Sliceinfo 0
  else if type = API_FRAME_TYPE_P then
    .ok (sent 0, [.video API_FRAME_TYPE_P 4 frame.less4])
  else .ok (0, [])

/-- `PushVideoData`, with the packets of its calls. -/
def pushVideoData (sent : ℕ → ℤ) (type timestamp : ℕ) : Except Fault (ℤ × List RtmpPacket) := do
  let (ret, calls) ← videoCalls frame sent type
  let packets ← calls.mapM (RtmpCall.packet m_stream_id frame timestamp)
  return (ret, packets)

end SmartPlat.Rtmp
