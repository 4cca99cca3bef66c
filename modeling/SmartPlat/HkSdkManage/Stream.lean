import SmartPlat.Common
import SmartPlat.HkSdkManage.Basic
import SmartPlat.Lib.Transition

set_option autoImplicit false

/-! # The real-play callback (`Modules/HkSdkManage/hkManage.c`)

The SDK calls `g_RealDataCallBack_V30` with the packets of every stream that is open. The callback
looks for the channel of the stream, keeps the payloads of its video packets in a table, and at the
next pack header copies them into one buffer that goes to the media queue. Reading or writing outside
of a packet, the table or a buffer is `Fault.badAccess`. -/

namespace SmartPlat.HkSdkManage

/-- `NET_DVR_STREAMDATA` -/
def netDvrStreamdata : ℕ := 2

/-- `MAX_FRAME_LENTH` -/
def maxFrameLenth : ℕ := 64

/-- `MAX_PACK_SIZE` -/
def maxPackSize : ℕ := 5120

/-- A call of the callback for a stream; `dwBufSize` is the length of the buffer. -/
structure Packet where
  dwDataType : ℕ
  pBuffer : List UInt8
  dwBufSize_lt : pBuffer.length < 2 ^ 32

/-- The size as the `int` parameter of `GetH246FromPS`. -/
def Packet.nBufLenth (p : Packet) : ℤ := Int.bmod p.pBuffer.length (2 ^ 32)

/-! ## The cache -/

/-- An allocation: its size, and what has been written to its start. -/
structure HeapBuffer where
  size : ℕ
  bytes : List UInt8

/-- `CacheBuffder`, without the time stamp and `dwFrameLenth`, which nothing reads. -/
structure CacheBuffder where
  pCacheBuffer : Option HeapBuffer
  nCacheBufLenth : ℤ

/-- The rows of `FRAME_FD` for one real-play handle. -/
structure FrameCache where
  m_mFrameCacheLenth : ℕ
  m_pFrameCache : ℕ → CacheBuffder

/-- `FRAME_FD`, by real-play handle. -/
abbrev FrameFd := ℤ → FrameCache

/-- `_frame_fd = {0}` -/
def FrameFd.zero : FrameFd := fun _ => ⟨0, fun _ => ⟨none, 0⟩⟩

/-- A frame as `WriteH264DataToChace` writes it to a media queue. -/
structure PushedFrame where
  queueid : ℤ
  data : List UInt8
  isKeyFrame : Bool
  deriving DecidableEq

/-! ## Packets -/

/-- `pBuffer[0] == … && pBuffer[1] == … && …`: the comparison stops at the first difference. -/
def comparePrefix : List UInt8 → List UInt8 → Except Fault Bool
  | [], _ => .ok true
  | _ :: _, [] => .error .badAccess
  | x :: xs, y :: ys => if y = x then comparePrefix xs ys else .ok false

/-- `00 00 01 E0` -/
def videoStart : List UInt8 := [0x00, 0x00, 0x01, 0xE0]

/-- `00 00 01 BA` -/
def packStart : List UInt8 := [0x00, 0x00, 0x01, 0xBA]

/-- What `GetH246FromPS` makes of a packet. -/
inductive PsPacket where
  /-- `bVideo` stays `FALSE`. -/
  | other
  /-- A pack header: `bVideo`, and `FALSE` is returned. -/
  | packHeader (slot : CacheBuffder)
  /-- Video data, in the slot. -/
  | video (slot : CacheBuffder)

/-- The video branch of `GetH246FromPS`: the payload goes to the buffer of the slot, which is allocated
    if there is none. -/
def copyPayload (p : Packet) (slot : CacheBuffder) : Except Fault CacheBuffder :=
  match p.pBuffer[8]? with
  | none => .error .badAccess
  | some pad =>
      let nHerderLen : ℕ := 9 + pad.toNat
      let pH264 := slot.pCacheBuffer.getD ⟨p.pBuffer.length, []⟩
      let nH264Lenth := p.nBufLenth - nHerderLen
      if nH264Lenth > 0 then
        if nH264Lenth ≤ pH264.size then
          .ok ⟨some ⟨pH264.size, p.pBuffer.drop nHerderLen⟩, nH264Lenth⟩
        else .error .badAccess
      else .ok ⟨some pH264, nH264Lenth⟩

/-- `GetH246FromPS` -/
def getH246FromPS (p : Packet) (slot : CacheBuffder) : Except Fault PsPacket :=
  if p.nBufLenth ≤ 0 then .ok .other
  else
    (comparePrefix videoStart p.pBuffer).bind fun isVideo =>
      if isVideo then (copyPayload p slot).map .video
      else
        (comparePrefix packStart p.pBuffer).map fun isPack =>
          if isPack then .packHeader ⟨none, 0⟩ else .other

/-! ## Assembling a frame -/

/-- One `memcpy` into `pH264Nal`, of which the first bytes are filled. -/
def copyCached (lH264DataLenth : ℕ) (pH264Nal : List UInt8) (slot : CacheBuffder) :
    Except Fault (List UInt8) :=
  match slot.pCacheBuffer with
  | none => .ok pH264Nal
  | some buffer =>
      if slot.nCacheBufLenth > 0 then
        if slot.nCacheBufLenth ≤ buffer.bytes.length ∧
            pH264Nal.length + slot.nCacheBufLenth ≤ lH264DataLenth then
          .ok (pH264Nal ++ buffer.bytes.take slot.nCacheBufLenth.toNat)
        else .error .badAccess
      else .ok pH264Nal

/-- The cached payloads one after another. -/
def assemble (cache : FrameCache) : Except Fault (List UInt8) :=
  (List.range cache.m_mFrameCacheLenth).foldlM
    (fun nal i => copyCached (cache.m_mFrameCacheLenth * maxPackSize) nal (cache.m_pFrameCache i)) []

/-- The slots that have been copied are freed and the count is cleared. -/
def FrameCache.clear (cache : FrameCache) : FrameCache where
  m_mFrameCacheLenth := 0
  m_pFrameCache i := if i < cache.m_mFrameCacheLenth then ⟨none, 0⟩ else cache.m_pFrameCache i

/-- `WriteH264DataToChace`. A key frame is told by the fifth byte of the cleared buffer; the clock is
    taken not to fail. -/
def writeH264DataToChace (queueid : ℤ) (data : List UInt8) : Option PushedFrame :=
  if data.length ≤ 0 ∨ queueid < 0 then none
  else some ⟨queueid, data, data.getD 4 0 = 0x67 ∨ data.getD 4 0 = 0x27⟩

/-! ## The callback -/

def FrameCache.setSlot (cache : FrameCache) (i : ℕ) (slot : CacheBuffder) : FrameCache :=
  { cache with m_pFrameCache := Function.update cache.m_pFrameCache i slot }

@[simp]
theorem FrameCache.setSlot_length (cache : FrameCache) (i : ℕ) (slot : CacheBuffder) :
    (cache.setSlot i slot).m_mFrameCacheLenth = cache.m_mFrameCacheLenth :=
  rfl

@[simp]
theorem FrameCache.setSlot_self (cache : FrameCache) (i : ℕ) (slot : CacheBuffder) :
    (cache.setSlot i slot).m_pFrameCache i = slot :=
  Function.update_self _ _ _

theorem FrameCache.setSlot_of_ne (cache : FrameCache) {i j : ℕ} (slot : CacheBuffder) (h : j ≠ i) :
    (cache.setSlot i slot).m_pFrameCache j = cache.m_pFrameCache j :=
  Function.update_of_ne h _ _

/-- `case NET_DVR_STREAMDATA`, on the row of the stream. -/
def streamData (queueid : ℤ) (p : Packet) (cache : FrameCache) :
    Except Fault (FrameCache × Option PushedFrame) :=
  let nI := cache.m_mFrameCacheLenth
  if nI < maxFrameLenth then
    (getH246FromPS p (cache.m_pFrameCache nI)).bind fun
      | .other => .ok (cache, none)
      | .video slot => .ok ({ cache.setSlot nI slot with m_mFrameCacheLenth := nI + 1 }, none)
      | .packHeader slot =>
          let cache := cache.setSlot nI slot
          if nI > 0 then
            (assemble cache).map fun nal => (cache.clear, writeH264DataToChace queueid nal)
          else .ok (cache, none)
  else .error .badAccess

/-- The `switch` of `g_RealDataCallBack_V30`, with the queue of the channel. -/
def realData (queueid lRealHandle : ℤ) (p : Packet) (fd : FrameFd) :
    Except Fault (FrameFd × Option PushedFrame) :=
  if p.dwDataType = netDvrStreamdata then
    if 0 ≤ lRealHandle ∧ lRealHandle < netIpcMaxNum then
      (streamData queueid p (fd lRealHandle)).map fun r =>
        (Function.update fd lRealHandle r.1, r.2)
    else .error .badAccess
  else .ok (fd, none)

/-- The first slot of an NVR with the handle: its channel and queue. -/
def HkSdkDeviceInfo.channelOf (pLparam : HkSdkDeviceInfo) (lRealHandle : ℤ) : Option (ℤ × ℤ) :=
  ((List.finRange netIpcMaxNum).find? fun mm => pLparam.lRealPlayHandle mm = lRealHandle).map
    fun mm => (pLparam.lChannel mm, pLparam.lqueueId mm)

/-- The search of the callback. It goes on after an NVR that has the handle, so the last one counts. -/
def findChannel (dvrlistHead : List HkSdkDeviceInfo) (lRealHandle : ℤ) : ℤ × ℤ :=
  dvrlistHead.foldl (fun found pLparam =>
    if pLparam.lDvrSerialNumber.str.strlen > 0 then (pLparam.channelOf lRealHandle).getD found
    else found) (-1, -1)

/-- `g_RealDataCallBack_V30` -/
def gRealDataCallBackV30 (dvrlistHead : List HkSdkDeviceInfo) (lRealHandle : ℤ) (p : Packet)
    (fd : FrameFd) : Except Fault (FrameFd × Option PushedFrame) :=
  let found := findChannel dvrlistHead lRealHandle
  if found.1 < 0 then .ok (fd, none) else realData found.2 lRealHandle p fd

end SmartPlat.HkSdkManage
