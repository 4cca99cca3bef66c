import SmartPlat.Common
import SmartPlat.Lib.Bytes
import SmartPlat.Lib.RingBuffer

set_option autoImplicit false

/-! # Media queue: frames, headers and the queue record

The data of `mediaqueue.c` and `mediaqueueout.h`. A frame is a packed 32-byte header followed by its
payload: four head bytes (two sync bytes, stream type, media type), 24 bytes of stream parameters,
and the payload length as an `int`. For video, the third parameter byte is the frame type.

Pointers into the queue's buffer are offsets from `dataBuff`; `none` is the `NULL` pointer. The end
of the buffer, one past its last byte, is a legal offset: readers come to rest there. -/

namespace SmartPlat.MediaQueue

open SmartPlat.Lib

/-! ## Enumerations of `mediaqueueout.h` -/

inductive MediaType where
  | h264 | h265 | jpeg | mpeg4 | mjpeg | g711a | g711u | g726 | aac | pcm | msg
  deriving DecidableEq, Repr

/-- The enumerator values: video from `0x01`, pictures from `0x11`, audio from `0x21`. -/
def MediaType.code : MediaType → UInt8
  | .h264 => 0x01
  | .h265 => 0x02
  | .jpeg => 0x11
  | .mpeg4 => 0x12
  | .mjpeg => 0x13
  | .g711a => 0x21
  | .g711u => 0x22
  | .g726 => 0x23
  | .aac => 0x24
  | .pcm => 0x25
  | .msg => 0x26

inductive FrameType where
  | p | i | sps | pps
  deriving DecidableEq, Repr

def FrameType.code : FrameType → UInt8
  | .p => 0x61
  | .i => 0x65
  | .sps => 0x67
  | .pps => 0x68

/-! ## Headers -/

def dSyncdataHead0 : UInt8 := 0x77

def dSyncdataHead1 : UInt8 := 0x17

structure MeidaHead where
  sysncHead0 : UInt8
  sysncHead1 : UInt8
  streamType : UInt8
  mediaType : UInt8
  deriving DecidableEq, Repr

def sizeofMeidaHead : ℕ := 4

/-- `sizeof(MeidaVideo_T)`: head, 24 bytes of `QueueVideoInputInfo_T`, `datalen`. -/
def sizeofMeidaVideo : ℕ := 32

/-- `sizeof(MeidaAudio_T)`: head, 24 bytes of `QueueAudioInputInfo_T`, `datalen`. -/
def sizeofMeidaAudio : ℕ := 32

/-- The cast of a byte buffer to `MeidaHead_T`. -/
def MeidaHead.ofBytes (b : List UInt8) : MeidaHead :=
  ⟨byteAt b 0, byteAt b 1, byteAt b 2, byteAt b 3⟩

/-- Both sync bytes are in place. -/
def MeidaHead.synced (h : MeidaHead) : Bool :=
  h.sysncHead0 == dSyncdataHead0 && h.sysncHead1 == dSyncdataHead1

def MeidaHead.isVideo (h : MeidaHead) : Bool :=
  h.mediaType == MediaType.h264.code || h.mediaType == MediaType.h265.code

def MeidaHead.isAudio (h : MeidaHead) : Bool :=
  h.mediaType == MediaType.g711a.code

/-- `info.frametype` of a `MeidaVideo_T`. -/
def meidaVideoFrametype (b : List UInt8) : UInt8 := byteAt b 6

/-- `datalen` of a `MeidaVideo_T`. -/
def meidaVideoDatalen (b : List UInt8) : ℤ := int32At b 28

/-- `datalen` of a `MeidaAudio_T`. -/
def meidaAudioDatalen (b : List UInt8) : ℤ := int32At b 28

/-! ## Frames -/

/-- A whole frame as it is handed to `WriteData`: an H264, H265 or G711A header whose length field
    counts the payload bytes behind it. -/
structure Frame where
  data : List UInt8
  synced : (MeidaHead.ofBytes data).synced = true
  kind : (MeidaHead.ofBytes data).isVideo = true ∨ (MeidaHead.ofBytes data).isAudio = true
  headed : sizeofMeidaVideo ≤ data.length
  datalen : int32At data 28 = data.length - 32
  fits : data.length < 2 ^ 31

/-- Header plus payload, in bytes. -/
def Frame.size (f : Frame) : ℕ := f.data.length

/-- A non-P video frame, the kind a reader may be resynchronised on. -/
def Frame.isKey (f : Frame) : Bool :=
  (MeidaHead.ofBytes f.data).isVideo && meidaVideoFrametype f.data != FrameType.p.code

/-- The bytes of consecutive frames. -/
def frameBytes (fs : List Frame) : List UInt8 := fs.flatMap Frame.data

theorem Frame.ext_data {f g : Frame} (h : f.data = g.data) : f = g := by
  cases f; cases g; cases h; rfl

theorem Frame.size_ge (f : Frame) : 32 ≤ f.size := f.headed

theorem Frame.size_lt (f : Frame) : f.size < 2 ^ 31 := f.fits

@[simp] theorem frameBytes_nil : frameBytes [] = [] := rfl

@[simp] theorem frameBytes_cons (f : Frame) (fs : List Frame) :
    frameBytes (f :: fs) = f.data ++ frameBytes fs := rfl

@[simp] theorem frameBytes_append (fs gs : List Frame) :
    frameBytes (fs ++ gs) = frameBytes fs ++ frameBytes gs := by
  simp [frameBytes]

/-! ## Building frames -/

/-- `QueueVideoInputInfo_T`. -/
structure QueueVideoInputInfo where
  fps : UInt8
  rcmode : UInt8
  frametype : UInt8
  staty0 : UInt8
  width : ℤ
  height : ℤ
  bitrate : ℤ
  highPts : ℤ
  lowPts : ℤ
  deriving DecidableEq, Repr

def QueueVideoInputInfo.bytes (info : QueueVideoInputInfo) : List UInt8 :=
  [info.fps, info.rcmode, info.frametype, info.staty0] ++ int32Bytes info.width
    ++ int32Bytes info.height ++ int32Bytes info.bitrate ++ int32Bytes info.highPts
    ++ int32Bytes info.lowPts

/-- `QueueAudioInputInfo_T`. -/
structure QueueAudioInputInfo where
  samplerate : ℤ
  prenum : ℤ
  bitwidth : ℤ
  soundmode : ℤ
  highPts : ℤ
  lowPts : ℤ
  deriving DecidableEq, Repr

def QueueAudioInputInfo.bytes (info : QueueAudioInputInfo) : List UInt8 :=
  int32Bytes info.samplerate ++ int32Bytes info.prenum ++ int32Bytes info.bitwidth
    ++ int32Bytes info.soundmode ++ int32Bytes info.highPts ++ int32Bytes info.lowPts

/-- The staging buffer as `WriteVideoRawData` and `WriteAudioRawData` fill it; they leave the stream
    type zero. -/
def rawFrame (mediaType : MediaType) (info data : List UInt8) : List UInt8 :=
  [dSyncdataHead0, dSyncdataHead1, 0, mediaType.code] ++ info ++ int32Bytes data.length ++ data

@[simp] theorem length_int32Bytes (n : ℤ) : (int32Bytes n).length = 4 := rfl

theorem length_videoInfo (info : QueueVideoInputInfo) : info.bytes.length = 24 := rfl

theorem length_audioInfo (info : QueueAudioInputInfo) : info.bytes.length = 24 := rfl

theorem length_rawFrame (mediaType : MediaType) {info : List UInt8} (data : List UInt8)
    (hinfo : info.length = 24) : (rawFrame mediaType info data).length = 32 + data.length := by
  simp [rawFrame, hinfo]
  omega

theorem head_rawFrame (mediaType : MediaType) (info data : List UInt8) :
    MeidaHead.ofBytes (rawFrame mediaType info data)
      = ⟨dSyncdataHead0, dSyncdataHead1, 0, mediaType.code⟩ := rfl

theorem datalen_rawFrame (mediaType : MediaType) {info : List UInt8} (data : List UInt8)
    (hinfo : info.length = 24) (hlen : data.length < 2 ^ 31) :
    int32At (rawFrame mediaType info data) 28 = data.length := by
  have hpre : ([dSyncdataHead0, dSyncdataHead1, 0, mediaType.code] ++ info).length = 28 := by
    simp [hinfo]
  have h := int32At_append_right (a := [dSyncdataHead0, dSyncdataHead1, 0, mediaType.code] ++ info)
    (b := int32Bytes data.length ++ data) 0
  rw [hpre] at h
  rw [rawFrame, List.append_assoc, h]
  exact int32At_int32Bytes _ _ (by omega) (by omega)

theorem synced_rawFrame (mediaType : MediaType) (info data : List UInt8) :
    (MeidaHead.ofBytes (rawFrame mediaType info data)).synced = true := by
  rw [head_rawFrame]
  rfl

theorem headed_rawFrame (mediaType : MediaType) {info : List UInt8} (data : List UInt8)
    (hinfo : info.length = 24) : sizeofMeidaVideo ≤ (rawFrame mediaType info data).length := by
  rw [length_rawFrame _ _ hinfo, sizeofMeidaVideo]
  omega

theorem payload_rawFrame (mediaType : MediaType) {info data : List UInt8} (hinfo : info.length = 24)
    (hlen : 32 + data.length < 2 ^ 31) :
    int32At (rawFrame mediaType info data) 28 = (rawFrame mediaType info data).length - 32 := by
  rw [length_rawFrame _ _ hinfo, datalen_rawFrame _ _ hinfo (by omega)]
  omega

theorem fits_rawFrame (mediaType : MediaType) {info data : List UInt8} (hinfo : info.length = 24)
    (hlen : 32 + data.length < 2 ^ 31) : (rawFrame mediaType info data).length < 2 ^ 31 := by
  rwa [length_rawFrame _ _ hinfo]

/-- What the two raw writers build is a frame, for the media types the readers know. -/
def Frame.ofRaw (mediaType : MediaType) (info data : List UInt8) (hinfo : info.length = 24)
    (hkind : mediaType = .h264 ∨ mediaType = .h265 ∨ mediaType = .g711a)
    (hlen : 32 + data.length < 2 ^ 31) : Frame where
  data := rawFrame mediaType info data
  synced := synced_rawFrame mediaType info data
  kind := by
    rw [head_rawFrame]
    rcases hkind with rfl | rfl | rfl <;> decide
  headed := headed_rawFrame mediaType data hinfo
  datalen := payload_rawFrame mediaType hinfo hlen
  fits := fits_rawFrame mediaType hinfo hlen

/-! ## The queue record -/

abbrev queueUseMax : ℕ := 4

/-- `QueueHandle_T` of one queue. -/
structure QueueHandle where
  enabled : Bool
  pWrite : Option ℕ
  pRead : Fin queueUseMax → Option ℕ
  dataBuff : List UInt8
  dataBuffSize : ℕ

end SmartPlat.MediaQueue
