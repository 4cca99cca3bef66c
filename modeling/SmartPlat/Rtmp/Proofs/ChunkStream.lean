import SmartPlat.Rtmp.ChunkStream

set_option autoImplicit false

/-! # What is sent in chunks is read again -/

namespace SmartPlat.Rtmp

open SmartPlat.Lib

/-! ## The header -/

theorem readN_append {a : List UInt8} (n : ℕ) (h : a.length = n) (rest : List UInt8) :
    readN n (a ++ rest) = .ok (a, rest) := by
  subst h
  simp [readN]

/-- The two upper bits and the six lower bits of the first byte. -/
theorem first_byte : ∀ headerType < 4, ∀ low < 64,
    ((UInt8.ofNat (headerType <<< 6 ||| low) &&& 0xc0) >>> 6).toNat = headerType ∧
      (UInt8.ofNat (headerType <<< 6 ||| low) &&& 0x3f).toNat = low := by
  decide

theorem next_byte : ∀ headerType < 4, ∀ low < 64,
    (0xc0 : UInt8) ||| UInt8.ofNat (headerType <<< 6 ||| low) = UInt8.ofNat (3 <<< 6 ||| low) := by
  decide

theorem or_channelByte {headerType m_nChannel : ℕ} (hh : headerType < 4) :
    0xc0 ||| channelByte headerType m_nChannel = channelByte 3 m_nChannel := by
  unfold channelByte channelSize
  split_ifs with h319 h63
  · exact next_byte headerType hh 1 (by decide)
  · exact next_byte headerType hh 0 (by decide)
  · exact next_byte headerType hh m_nChannel (by omega)

theorem readChannel_sent {headerType m_nChannel : ℕ} (hh : headerType < 4) (h2 : 2 ≤ m_nChannel)
    (hch : m_nChannel < RTMP_CHANNELS) (rest : List UInt8) :
    readChannel (channelByte headerType m_nChannel :: (channelBytes m_nChannel ++ rest)) =
      .ok (headerType, m_nChannel, rest) := by
  have hchannels : RTMP_CHANNELS = 65600 := rfl
  have hread : ∀ b (wire : List UInt8), readN 1 (b :: wire) = .ok ([b], wire) := fun b wire =>
    readN_append (a := [b]) 1 rfl wire
  have hread2 : ∀ b b' (wire : List UInt8), readN 2 (b :: b' :: wire) = .ok ([b, b'], wire) :=
    fun b b' wire => readN_append (a := [b, b']) 2 rfl wire
  have hlow8 : m_nChannel - 64 &&& 255 = (m_nChannel - 64) % 256 := Nat.and_two_pow_sub_one_eq_mod _ 8
  unfold channelByte channelBytes channelSize readChannel
  split_ifs with h319 h63
  · obtain ⟨hhigh, hlow⟩ := first_byte headerType hh 1 (by decide)
    have hchannel : ((m_nChannel - 64) >>> 8 % 2 ^ 8) <<< 8 + (m_nChannel - 64) % 256 % 2 ^ 8 + 64 =
        m_nChannel := by
      rw [Nat.shiftLeft_eq, Nat.shiftRight_eq_div_pow]
      omega
    simp only [List.cons_append, List.nil_append, hread, hread2, bind, Except.bind, pure, Except.pure,
      byteAt, List.getD_cons_zero, List.getD_cons_succ, hhigh, hlow, hlow8, UInt8.toNat_ofNat',
      Nat.reduceEqDiff, if_true, if_false, hchannel]
  · obtain ⟨hhigh, hlow⟩ := first_byte headerType hh 0 (by decide)
    have hchannel : (m_nChannel - 64) % 256 % 2 ^ 8 + 64 = m_nChannel := by omega
    simp only [List.cons_append, List.nil_append, hread, bind, Except.bind, pure, Except.pure, byteAt,
      List.getD_cons_zero, hhigh, hlow, hlow8, UInt8.toNat_ofNat', if_true, hchannel]
  · obtain ⟨hhigh, hlow⟩ := first_byte headerType hh m_nChannel (by omega)
    have h0 : m_nChannel ≠ 0 := by omega
    have h1 : m_nChannel ≠ 1 := by omega
    simp only [List.nil_append, hread, bind, Except.bind, pure, Except.pure, byteAt,
      List.getD_cons_zero, hhigh, hlow, h0, h1, if_false]

theorem amfDecodeInt24_encode {n : ℕ} (h : n < 2 ^ 24) (rest : List UInt8) :
    amfDecodeInt24 (amfEncodeInt24 n ++ rest) = n :=
  ofBytes_bytesOf_of_lt (k := 3) h

theorem amfDecodeInt32_encode {n : ℕ} (h : n < 2 ^ 32) (rest : List UInt8) :
    amfDecodeInt32 (amfEncodeInt32 n ++ rest) = n :=
  ofBytes_bytesOf_of_lt (k := 4) h

/-- The timestamp as three bytes can say it. -/
def shortTime (t : ℕ) : ℕ := if t > 0xffffff then 0xffffff else t

/-- The bytes of the first header behind the channel, without the extended timestamp. -/
def fieldBytes (headerType t : ℕ) (packet : RtmpPacket) : List UInt8 :=
  (if packetSize headerType > 1 then amfEncodeInt24 (shortTime t) else []) ++
    (if packetSize headerType > 4 then
      amfEncodeInt24 packet.m_body.length ++ [.ofNat packet.m_packetType] else []) ++
    if packetSize headerType > 8 then encodeInt32LE packet.m_nInfoField2 else []

/-- What they make of the packet in which they are read. -/
def filled (headerType t : ℕ) (packet : RtmpPacket) (p : RtmpPacketIn) : RtmpPacketIn :=
  match headerType with
  | 0 => { p with
      m_packetType := packet.m_packetType, m_nTimeStamp := t, m_nInfoField2 := packet.m_nInfoField2
      m_nBodySize := packet.m_body.length, m_nBytesRead := 0, m_body := none }
  | 1 => { p with
      m_packetType := packet.m_packetType, m_nTimeStamp := t
      m_nBodySize := packet.m_body.length, m_nBytesRead := 0, m_body := none }
  | _ => { p with m_nTimeStamp := t }

/-- What the protocol can say of a packet. -/
structure RtmpPacket.Sendable (packet : RtmpPacket) : Prop where
  type : packet.m_packetType < 256
  channel : 2 ≤ packet.m_nChannel ∧ packet.m_nChannel < RTMP_CHANNELS
  time : packet.m_nTimeStamp < 2 ^ 32
  info : -2 ^ 31 ≤ packet.m_nInfoField2 ∧ packet.m_nInfoField2 < 2 ^ 31
  body : packet.m_body.length < 2 ^ 24

variable {packet : RtmpPacket} {headerType t : ℕ}

theorem shortTime_lt (t : ℕ) : shortTime t < 2 ^ 24 := by
  unfold shortTime
  split <;> omega

theorem withFields_sent (hp : packet.Sendable) (hh : headerType < 3) (p : RtmpPacketIn) :
    p.withFields (packetSize headerType - 1) (fieldBytes headerType t packet) =
      filled headerType (shortTime t) packet p := by
  have htime := shortTime_lt t
  have htype : (UInt8.ofNat packet.m_packetType).toNat = packet.m_packetType := by
    rw [UInt8.toNat_ofNat', Nat.mod_eq_of_lt hp.type]
  have hinfo : int32At (int32Bytes packet.m_nInfoField2) 0 = packet.m_nInfoField2 := by
    have h := int32At_int32Bytes packet.m_nInfoField2 [] hp.info.1 hp.info.2
    rwa [List.append_nil] at h
  obtain rfl | rfl | rfl : headerType = 0 ∨ headerType = 1 ∨ headerType = 2 := by omega
  · let rest : List UInt8 := .ofNat packet.m_packetType :: encodeInt32LE packet.m_nInfoField2
    have hbytes : fieldBytes 0 t packet =
        amfEncodeInt24 (shortTime t) ++ (amfEncodeInt24 packet.m_body.length ++ rest) := by
      simp [fieldBytes, packetSize, rest]
    have h3 : (fieldBytes 0 t packet).drop 3 = amfEncodeInt24 packet.m_body.length ++ rest := by
      rw [hbytes]
      rfl
    have h6 : byteAt (fieldBytes 0 t packet) 6 = .ofNat packet.m_packetType := by
      rw [hbytes]
      rfl
    have h7 : decodeInt32LE ((fieldBytes 0 t packet).drop 7) = packet.m_nInfoField2 := by
      rw [hbytes, ← hinfo]
      rfl
    simp only [RtmpPacketIn.withFields, packetSize, h3, h6, h7, htype, amfDecodeInt24_encode hp.body]
    rw [hbytes, amfDecodeInt24_encode htime]
    rfl
  · let rest : List UInt8 := [.ofNat packet.m_packetType]
    have hbytes : fieldBytes 1 t packet =
        amfEncodeInt24 (shortTime t) ++ (amfEncodeInt24 packet.m_body.length ++ rest) := by
      simp [fieldBytes, packetSize, rest]
    have h3 : (fieldBytes 1 t packet).drop 3 = amfEncodeInt24 packet.m_body.length ++ rest := by
      rw [hbytes]
      rfl
    have h6 : byteAt (fieldBytes 1 t packet) 6 = .ofNat packet.m_packetType := by
      rw [hbytes]
      rfl
    simp only [RtmpPacketIn.withFields, packetSize, h3, h6, htype, amfDecodeInt24_encode hp.body]
    rw [hbytes, amfDecodeInt24_encode htime]
    rfl
  · have hbytes : fieldBytes 2 t packet = amfEncodeInt24 (shortTime t) ++ [] := by
      simp [fieldBytes, packetSize]
    simp only [RtmpPacketIn.withFields, packetSize]
    rw [hbytes, amfDecodeInt24_encode htime]
    rfl

theorem length_fieldBytes (hh : headerType < 3) :
    (fieldBytes headerType t packet).length = packetSize headerType - 1 := by
  obtain rfl | rfl | rfl : headerType = 0 ∨ headerType = 1 ∨ headerType = 2 := by omega
  · simp [fieldBytes, packetSize, amfEncodeInt24, encodeInt32LE, int32Bytes]
  · simp [fieldBytes, packetSize, amfEncodeInt24]
  · simp [fieldBytes, packetSize, amfEncodeInt24]

/-- What stands behind the channel in the first header. -/
def stampedBytes (headerType t : ℕ) (packet : RtmpPacket) : List UInt8 :=
  fieldBytes headerType t packet ++ if t ≥ 0xffffff then amfEncodeInt32 t else []

theorem readFields_sent (hp : packet.Sendable) (hh : headerType < 3) (ht : t < 2 ^ 32) (p : RtmpPacketIn)
    (rest : List UInt8) :
    readFields headerType p (stampedBytes headerType t packet ++ rest) =
      .ok (filled headerType t packet p, rest) := by
  have hthree : packetSize headerType - 1 ≥ 3 := by
    obtain rfl | rfl | rfl : headerType = 0 ∨ headerType = 1 ∨ headerType = 2 := by omega
    all_goals decide
  have hfilled : ∀ t', (filled headerType t' packet p).m_nTimeStamp = t' := by
    intro t'
    obtain rfl | rfl | rfl : headerType = 0 ∨ headerType = 1 ∨ headerType = 2 := by omega
    all_goals rfl
  have hstamp : ∀ t', { filled headerType t' packet p with m_nTimeStamp := t } =
      filled headerType t packet p := by
    intro t'
    obtain rfl | rfl | rfl : headerType = 0 ∨ headerType = 1 ∨ headerType = 2 := by omega
    all_goals rfl
  have hread : readN (packetSize headerType - 1) (stampedBytes headerType t packet ++ rest) =
      .ok (fieldBytes headerType t packet, (if t ≥ 0xffffff then amfEncodeInt32 t else []) ++ rest) := by
    rw [stampedBytes, List.append_assoc, readN_append _ (length_fieldBytes hh)]
  unfold readFields
  simp only [hread, bind, Except.bind, pure, Except.pure, if_pos hthree, withFields_sent hp hh, hfilled]
  by_cases hlong : t ≥ 0xffffff
  · have hshort : shortTime t = 0xffffff := by
      unfold shortTime
      split <;> omega
    have hext := amfDecodeInt32_encode ht []
    rw [List.append_nil] at hext
    simp only [if_pos hlong, hshort, if_true, readN_append 4 (length_bytesOf 4 t), amfEncodeInt32] at hext ⊢
    rw [hext, hstamp]
  · have hshort : shortTime t = t := if_neg (by omega)
    rw [hshort, if_neg (by omega), if_neg hlong]
    rfl

/-! ## The body -/

/-- A packet with the first `k` bytes of its body. -/
def partway (p : RtmpPacketIn) (body : List UInt8) (k : ℕ) : RtmpPacketIn :=
  { p with m_nBytesRead := k, m_body := some (body.take k ++ List.replicate (body.length - k) 0) }

variable {p : RtmpPacketIn} {body : List UInt8} {k n : ℕ} {r : RtmpIn}

theorem putBody_partway (hk : k + n ≤ body.length) :
    putBody (partway p body k).m_body k ((body.drop k).take n) = .ok (partway p body (k + n)).m_body := by
  have hlen : ((body.drop k).take n).length = n := by
    rw [List.length_take, List.length_drop]
    omega
  have htake : (body.take k).length = k := List.length_take_of_le (by omega)
  have hfront : (body.take k ++ List.replicate (body.length - k) 0).take k = body.take k :=
    List.take_left' htake
  have hback : (body.take k ++ List.replicate (body.length - k) 0).drop (k + n) =
      List.replicate (body.length - (k + n)) 0 := by
    rw [← List.drop_drop, List.drop_left' htake, List.drop_replicate, Nat.sub_sub]
  have hfits : k + n ≤ (body.take k ++ List.replicate (body.length - k) 0).length := by
    rw [List.length_append, htake, List.length_replicate]
    omega
  rw [partway, putBody]
  simp only [hlen, if_pos hfits]
  rw [hfront, hback, partway, List.take_add]

/-- One chunk, at most as long as the reader expects it. -/
theorem readBody_partway (hsize : p.m_nBodySize = body.length) (hn : r.m_inChunkSize = n)
    (hk : k ≤ body.length) (rest : List UInt8) :
    r.readBody (partway p body k) ((body.drop k).take n ++ rest) =
      .ok (partway p body (k + min n (body.length - k)), rest) := by
  have hm : (if (body.length : ℤ) - k < n then (body.length : ℤ) - k else n).toNat =
      min n (body.length - k) := by
    split <;> omega
  have hnonneg : ¬ (if (body.length : ℤ) - k < n then (body.length : ℤ) - k else n) < 0 := by
    split <;> omega
  have htake : (body.drop k).take n = (body.drop k).take (min n (body.length - k)) := by
    rw [← List.length_drop, ← List.take_eq_take_min]
  have hlen : ((body.drop k).take (min n (body.length - k))).length = min n (body.length - k) := by
    rw [List.length_take, List.length_drop]
    omega
  have hput : putBody (partway p body k).m_body k ((body.drop k).take (min n (body.length - k))) =
      .ok (partway p body (k + min n (body.length - k))).m_body := putBody_partway (by omega)
  have hread : (partway p body k).m_nBytesRead = k := rfl
  have hbody : (partway p body k).m_nBodySize = body.length := hsize
  unfold RtmpIn.readBody
  simp only [hn, hread, hbody, if_neg hnonneg, hm, htake, readN_append _ hlen, bind, Except.bind, hput,
    pure, Except.pure]
  simp only [partway, hsize]

/-- The reader with a packet kept for its channel. -/
def RtmpIn.remember (r : RtmpIn) (p : RtmpPacketIn) : RtmpIn :=
  { r with m_vecChannelsIn := Function.update r.m_vecChannelsIn p.m_nChannel (some p) }

theorem keep_partway (hsize : p.m_nBodySize = body.length) (hk : k ≠ body.length) :
    r.keep (partway p body k) =
      (r.remember (partway p body k), { partway p body k with m_body := none }) := by
  have hready : (partway p body k).isReady = false := by
    rw [RtmpPacketIn.isReady, decide_eq_false_iff_not]
    exact fun h => hk (h.trans hsize)
  rw [RtmpIn.keep, hready]
  rfl

theorem partway_isReady (hsize : p.m_nBodySize = body.length) :
    (partway p body body.length).isReady = true := by
  rw [RtmpPacketIn.isReady, decide_eq_true_iff]
  exact hsize.symm

theorem isReady_keep (h : p.isReady = true) : (r.keep p).2.isReady = true := by
  simp only [RtmpIn.keep, h, if_true]
  exact h

/-- What was kept of the same packet before does not matter once all of it is there. -/
theorem keep_whole (hsize : p.m_nBodySize = body.length) :
    (r.remember (partway p body k)).keep (partway p body body.length) =
      r.keep (partway p body body.length) := by
  have hready := partway_isReady hsize
  have hchannel : ∀ k, (partway p body k).m_nChannel = p.m_nChannel := fun k => rfl
  simp only [RtmpIn.keep, RtmpIn.remember, hready, hchannel, Function.update_idem]

theorem readBody_empty (hsize : p.m_nBodySize = 0) (hread : p.m_nBytesRead = 0) (hbody : p.m_body = none)
    (hn : r.m_inChunkSize = n) (hpos : 0 < n) (wire : List UInt8) : r.readBody p wire = .ok (p, wire) := by
  have hnone : readN 0 wire = .ok ([], wire) := by simp [readN]
  obtain ⟨_, _, _, _, _, _, _, _, _⟩ := p
  subst hsize hread hbody
  simp [RtmpIn.readBody, hn, hpos, hnone, putBody, bind, Except.bind, pure, Except.pure]

theorem checkChannel_ok {m_nChannel : ℕ} (h : m_nChannel < RTMP_CHANNELS) :
    checkChannel m_nChannel = .ok () := if_pos h

/-- A chunk behind the first. -/
theorem rtmpReadPacket_next (hsize : p.m_nBodySize = body.length)
    (hchannel : 2 ≤ p.m_nChannel ∧ p.m_nChannel < RTMP_CHANNELS) (hn : r.m_inChunkSize = n)
    (hkept : r.m_vecChannelsIn p.m_nChannel = some (partway p body k)) (hk : k ≤ body.length)
    (q : RtmpPacketIn) (rest : List UInt8) :
    rtmpReadPacket r q (channelByte 3 p.m_nChannel :: (channelBytes p.m_nChannel ++
        ((body.drop k).take n ++ rest))) =
      .ok (r.keep (partway p body (k + min n (body.length - k))), rest) := by
  have hstart : r.startPacket 3 p.m_nChannel q = partway p body k := by
    simp only [RtmpIn.startPacket, packetSize, hkept, Option.getD_some]
    rfl
  have hfields : ∀ wire, readFields 3 (partway p body k) wire = .ok (partway p body k, wire) := fun wire => by
    simp [readFields, packetSize, readN, bind, Except.bind, pure, Except.pure]
  have halloc : (partway p body k).alloc 3 = partway p body k := by
    simp [RtmpPacketIn.alloc, partway]
  have hpart : (partway p body (k + min n (body.length - k))).m_nChannel = p.m_nChannel := rfl
  unfold rtmpReadPacket
  simp only [readChannel_sent (by decide : 3 < 4) hchannel.1 hchannel.2, bind, Except.bind,
    checkChannel_ok hchannel.2, hstart, hfields, halloc, readBody_partway hsize hn hk, hpart]
  rfl

theorem readReady_succ (fuel : ℕ) (q : RtmpPacketIn) (wire : List UInt8) {x : RtmpIn × RtmpPacketIn}
    {rest : List UInt8} (h : rtmpReadPacket r q wire = .ok (x, rest)) :
    readReady (fuel + 1) r q wire = if x.2.isReady then .ok (x, rest) else readReady fuel x.1 x.2 rest := by
  simp only [readReady, h, bind, Except.bind]
  rfl

/-- **The chunks behind the first**, by induction on the rounds of the sender: `k` bytes of the body have
    been read. -/
theorem readReady_tail (size : ChunkSize) (hsize : p.m_nBodySize = body.length)
    (hchannel : 2 ≤ p.m_nChannel ∧ p.m_nChannel < RTMP_CHANNELS) {next : UInt8 → List UInt8}
    (hnext : ∀ b, next b = channelByte 3 p.m_nChannel :: channelBytes p.m_nChannel) {fuel : ℕ} (b : UInt8)
    (hk : k < body.length) (hfuel : body.length - k < fuel) :
    ∃ sent, sendLoop size next fuel (next b) (body.drop k) = .ok sent ∧ body.length - k ≤ sent.length ∧
      ∀ (r : RtmpIn) q rest rounds, r.m_inChunkSize = size.bytes →
        r.m_vecChannelsIn p.m_nChannel = some (partway p body k) → body.length - k ≤ rounds →
        readReady rounds r q (sent ++ rest) = .ok (r.keep (partway p body body.length), rest) := by
  have hpos := size.pos
  induction fuel generalizing k b with
  | zero => omega
  | succ fuel ih =>
      have hread : ∀ (r : RtmpIn) q rest, r.m_inChunkSize = size.bytes →
          r.m_vecChannelsIn p.m_nChannel = some (partway p body k) →
          rtmpReadPacket r q (next b ++ (body.drop k).take size.bytes ++ rest) =
            .ok (r.keep (partway p body (k + min size.bytes (body.length - k))), rest) := by
        intro r q rest hn hkept
        rw [hnext, List.append_assoc]
        exact rtmpReadPacket_next hsize hchannel hn hkept (Nat.le_of_lt hk) q rest
      rw [sendLoop]
      by_cases hlast : (body.drop k).drop size.bytes = []
      · rw [List.drop_drop, List.drop_eq_nil_iff] at hlast
        have hall : k + min size.bytes (body.length - k) = body.length := by omega
        refine ⟨_, if_pos (by rw [List.drop_drop, List.drop_eq_nil_iff]; exact hlast), ?_, ?_⟩
        · rw [List.length_append, List.length_take, List.length_drop]
          omega
        · intro r q rest rounds hn hkept hrounds
          obtain ⟨rounds, rfl⟩ := Nat.exists_eq_add_of_lt (Nat.lt_of_lt_of_le (Nat.sub_pos_of_lt hk) hrounds)
          rw [hall] at hread
          rw [Nat.zero_add, readReady_succ rounds q _ (hread r q rest hn hkept), isReady_keep (partway_isReady hsize)]
          rfl
      · rw [if_neg hlast]
        rw [List.drop_drop, List.drop_eq_nil_iff] at hlast
        have hmin : min size.bytes (body.length - k) = size.bytes := by omega
        rw [hmin] at hread
        obtain ⟨more, hsend, hmore, htail⟩ := ih (k := k + size.bytes)
          (((body.drop k).take size.bytes).getLastD 0) (by omega) (by omega)
        refine ⟨next b ++ (body.drop k).take size.bytes ++ more, ?_, ?_, ?_⟩
        · rw [List.drop_drop, hsend]
          rfl
        · rw [List.length_append, List.length_append, List.length_take, List.length_drop]
          omega
        · intro r q rest rounds hn hkept hrounds
          obtain ⟨rounds, rfl⟩ := Nat.exists_eq_add_of_lt (Nat.lt_of_lt_of_le (Nat.sub_pos_of_lt hk) hrounds)
          have hnot : ({ partway p body (k + size.bytes) with m_body := none } : RtmpPacketIn).isReady =
              false := by
            rw [RtmpPacketIn.isReady, decide_eq_false_iff_not]
            intro h
            have h' : k + size.bytes = p.m_nBodySize := h
            omega
          rw [Nat.zero_add, List.append_assoc, readReady_succ rounds q _ (hread r q (more ++ rest) hn hkept),
            keep_partway hsize (by omega), hnot, if_neg Bool.false_ne_true]
          rw [htail (r.remember (partway p body (k + size.bytes))) _ rest rounds hn
            (Function.update_self _ _ _) (by omega), keep_whole hsize]

/-! ## A packet -/

structure Agrees (packet : RtmpPacket) (p : RtmpPacketIn) : Prop where
  type : p.m_packetType = packet.m_packetType
  channel : p.m_nChannel = packet.m_nChannel
  info : p.m_nInfoField2 = packet.m_nInfoField2
  size : p.m_nBodySize = packet.m_body.length

/-- The header of a packet has been read, with its timestamp as it is there. -/
structure Opened (packet : RtmpPacket) (headerType t : ℕ) (p : RtmpPacketIn) : Prop
    extends Agrees packet p where
  abs : p.m_hasAbsTimestamp = decide (headerType = 0)
  time : p.m_nTimeStamp = t
  read : p.m_nBytesRead = 0
  body : p.m_body = none

/-- All of it has been read. -/
structure Whole (packet : RtmpPacket) (headerType t : ℕ) (p : RtmpPacketIn) : Prop
    extends Agrees packet p where
  abs : p.m_hasAbsTimestamp = decide (headerType = 0)
  time : p.m_nTimeStamp = t
  read : p.m_nBytesRead = packet.m_body.length
  body : p.m_body.getD [] = packet.m_body

/-- What is kept of it for the next one on its channel. -/
structure Remembers (prev : RtmpPacket) (p : RtmpPacketIn) : Prop extends Agrees prev p where
  abs : p.m_hasAbsTimestamp = false
  read : p.m_nBytesRead = 0
  body : p.m_body = none

/-- The reader knows of every channel what the sender takes it to know. -/
def ChannelsInSync (out : RtmpOut) (r : RtmpIn) : Prop :=
  ∀ m_nChannel prev, out.m_vecChannelsOut m_nChannel = some prev →
    prev.m_nChannel = m_nChannel ∧ prev.m_nTimeStamp < 2 ^ 32 ∧
      r.m_channelTimestamp m_nChannel = prev.m_nTimeStamp ∧
      ∃ p, r.m_vecChannelsIn m_nChannel = some p ∧ Remembers prev p

/-- The header says what the reader does not know. One of the least size would repeat the time between the
    two packets before, and so must not come about. -/
def HeaderFits (out : RtmpOut) (packet : RtmpPacket) : Prop :=
  packet.m_headerType = RTMP_PACKET_SIZE_LARGE ∨
    ∃ prev, out.m_vecChannelsOut packet.m_nChannel = some prev ∧
      prev.m_nInfoField2 = packet.m_nInfoField2 ∧
      (packet.m_headerType = RTMP_PACKET_SIZE_MEDIUM ∧
          ¬ (prev.m_body.length = packet.m_body.length ∧ prev.m_packetType = packet.m_packetType ∧
            prev.m_nTimeStamp = packet.m_nTimeStamp) ∨
        packet.m_headerType = RTMP_PACKET_SIZE_SMALL ∧ prev.m_body.length = packet.m_body.length ∧
          prev.m_packetType = packet.m_packetType ∧ prev.m_nTimeStamp ≠ packet.m_nTimeStamp)

/-- The header that is sent, and what it leaves to the reader. -/
theorem compress_cases {out : RtmpOut} (h : HeaderFits out packet) :
    compress (out.m_vecChannelsOut packet.m_nChannel) packet = (0, 0) ∨
      ∃ prev, out.m_vecChannelsOut packet.m_nChannel = some prev ∧
        prev.m_nInfoField2 = packet.m_nInfoField2 ∧
        (compress (some prev) packet = (1, prev.m_nTimeStamp) ∨
          compress (some prev) packet = (2, prev.m_nTimeStamp) ∧
            prev.m_body.length = packet.m_body.length ∧ prev.m_packetType = packet.m_packetType) := by
  obtain hlarge | ⟨prev, hprev, hinfo, hsize⟩ := h
  · left
    have h0 : packet.m_headerType = 0 := hlarge
    cases hout : out.m_vecChannelsOut packet.m_nChannel with
    | none => simp [compress, h0]
    | some prev => simp [compress, h0, RTMP_PACKET_SIZE_LARGE]
  · right
    refine ⟨prev, hprev, hinfo, ?_⟩
    obtain ⟨hmedium, hnot⟩ | ⟨hsmall, hlen, htype, htime⟩ := hsize
    · have h1 : packet.m_headerType = 1 := hmedium
      by_cases hsame : prev.m_body.length = packet.m_body.length ∧ prev.m_packetType = packet.m_packetType
      · have htime : prev.m_nTimeStamp ≠ packet.m_nTimeStamp := fun h => hnot ⟨hsame.1, hsame.2, h⟩
        right
        simp [compress, h1, hsame, htime, RTMP_PACKET_SIZE_LARGE, RTMP_PACKET_SIZE_MEDIUM,
          RTMP_PACKET_SIZE_SMALL]
      · left
        have hsame' : ¬ (prev.m_body.length = packet.m_body.length ∧
            prev.m_packetType = packet.m_packetType ∧ 1 = RTMP_PACKET_SIZE_MEDIUM) :=
          fun h => hsame ⟨h.1, h.2.1⟩
        simp only [compress, h1, if_neg hsame']
        simp [RTMP_PACKET_SIZE_LARGE, RTMP_PACKET_SIZE_SMALL]
    · have h2 : packet.m_headerType = 2 := hsmall
      right
      refine ⟨?_, hlen, htype⟩
      simp [compress, h2, htime, RTMP_PACKET_SIZE_LARGE, RTMP_PACKET_SIZE_MEDIUM, RTMP_PACKET_SIZE_SMALL]

/-- The time since the packet before, or the whole timestamp. -/
def sentTime (out : RtmpOut) (packet : RtmpPacket) : ℕ :=
  timeSince (compress (out.m_vecChannelsOut packet.m_nChannel) packet).2 packet.m_nTimeStamp

theorem timeSince_lt (last time : ℕ) : timeSince last time < 2 ^ 32 := Nat.mod_lt _ (by decide)

theorem sentTime_lt (out : RtmpOut) (packet : RtmpPacket) : sentTime out packet < 2 ^ 32 := timeSince_lt _ _

theorem timeSince_add {last time : ℕ} (hlast : last < 2 ^ 32) (htime : time < 2 ^ 32) :
    (timeSince last time + last) % 2 ^ 32 = time := by
  rw [timeSince, Nat.mod_add_mod, Nat.sub_add_cancel (by omega), Nat.add_mod_right, Nat.mod_eq_of_lt htime]

theorem opened_sent {out : RtmpOut} (hsync : ChannelsInSync out r) (hfits : HeaderFits out packet)
    (q : RtmpPacketIn) {headerType last : ℕ}
    (hcompress : compress (out.m_vecChannelsOut packet.m_nChannel) packet = (headerType, last)) :
    headerType < 3 ∧
      Opened packet headerType t
        (filled headerType t packet (r.startPacket headerType packet.m_nChannel q)) ∧
      (headerType = 0 ∧ last = 0 ∨
        headerType ≠ 0 ∧ last < 2 ^ 32 ∧ r.m_channelTimestamp packet.m_nChannel = last) := by
  obtain hlarge | ⟨prev, hprev, hinfo, hsize⟩ := compress_cases hfits
  · rw [hlarge] at hcompress
    cases hcompress
    refine ⟨by decide, ?_, .inl ⟨rfl, rfl⟩⟩
    constructor <;> try constructor
    all_goals rfl
  · obtain ⟨hchannel, htime, hstamp, p, hkept, hp⟩ := hsync _ prev hprev
    rw [hprev] at hcompress
    have hstart : ∀ h, packetSize h ≠ 12 → r.startPacket h packet.m_nChannel q = p := fun h hne => by
      simp only [RtmpIn.startPacket, if_neg hne, hkept, Option.getD_some]
    obtain hmedium | ⟨hsmall, hlen, htype⟩ := hsize
    · rw [hmedium] at hcompress
      cases hcompress
      rw [hstart 1 (by decide)]
      exact ⟨by decide, {
        type := rfl
        channel := hp.channel.trans hchannel
        info := hp.info.trans hinfo
        size := rfl
        abs := hp.abs
        time := rfl
        read := rfl
        body := rfl }, .inr ⟨by decide, htime, hstamp⟩⟩
    · rw [hsmall] at hcompress
      cases hcompress
      rw [hstart 2 (by decide)]
      exact ⟨by decide, {
        type := hp.type.trans htype
        channel := hp.channel.trans hchannel
        info := hp.info.trans hinfo
        size := hp.size.trans hlen
        abs := hp.abs
        time := rfl
        read := hp.read
        body := hp.body }, .inr ⟨by decide, htime, hstamp⟩⟩

theorem firstHeader_eq (hh : headerType < 3) :
    firstHeader headerType t packet =
      channelByte headerType packet.m_nChannel ::
        (channelBytes packet.m_nChannel ++ stampedBytes headerType t packet) := by
  have hsize : packetSize headerType > 1 := by
    obtain rfl | rfl | rfl : headerType = 0 ∨ headerType = 1 ∨ headerType = 2 := by omega
    all_goals decide
  simp only [firstHeader, stampedBytes, fieldBytes, shortTime, hsize, true_and, List.cons_append,
    List.append_assoc]

/-- The first chunk. -/
theorem rtmpReadPacket_first (hp : packet.Sendable) (hh : headerType < 3) (ht : t < 2 ^ 32)
    {q : RtmpPacketIn}
    (hopened : Opened packet headerType t
      (filled headerType t packet (r.startPacket headerType packet.m_nChannel q)))
    (hn : r.m_inChunkSize = n) (hpos : 0 < n) :
    ∃ p, Opened packet headerType t p ∧ ∀ rest,
      rtmpReadPacket r q (firstHeader headerType t packet ++ packet.m_body.take n ++ rest) =
        .ok (r.keep (if packet.m_body = [] then p
          else partway p packet.m_body (min n packet.m_body.length)), rest) := by
  generalize hfilled : filled headerType t packet (r.startPacket headerType packet.m_nChannel q) = p at hopened
  have hchannel := hp.channel
  by_cases hbody : packet.m_body = []
  · have hsize : p.m_nBodySize = 0 := by rw [hopened.size, hbody, List.length_nil]
    have halloc : p.alloc headerType = p := by simp [RtmpPacketIn.alloc, hsize]
    have hempty : ∀ wire, r.readBody p wire = .ok (p, wire) :=
      readBody_empty hsize hopened.read hopened.body hn hpos
    refine ⟨p, hopened, fun rest => ?_⟩
    unfold rtmpReadPacket
    simp only [firstHeader_eq hh, List.cons_append, List.append_assoc,
      readChannel_sent (Nat.lt_succ_of_lt hh) hchannel.1 hchannel.2, bind, Except.bind,
      checkChannel_ok hchannel.2, readFields_sent hp hh ht, hfilled, halloc, hempty, hopened.channel,
      hbody, List.take_nil, List.nil_append]
    rfl
  · have hlen : 0 < packet.m_body.length := List.length_pos_iff.2 hbody
    have hsize : p.m_nBodySize > 0 := hopened.size ▸ hlen
    have halloc : p.alloc headerType = partway { p with m_headerType := headerType } packet.m_body 0 := by
      rw [RtmpPacketIn.alloc, if_pos ⟨hsize, hopened.body⟩, partway, hopened.size]
      rfl
    have hchannel' : ∀ k, (partway { p with m_headerType := headerType } packet.m_body k).m_nChannel =
        packet.m_nChannel := fun k => hopened.channel
    have hopened' : Opened packet headerType t { p with m_headerType := headerType } := { hopened with }
    have hfirst := fun rest => readBody_partway (k := 0) hopened'.size hn (Nat.zero_le _) rest
    rw [List.drop_zero, Nat.zero_add, Nat.sub_zero] at hfirst
    refine ⟨_, hopened', fun rest => ?_⟩
    unfold rtmpReadPacket
    simp only [firstHeader_eq hh, List.cons_append, List.append_assoc,
      readChannel_sent (Nat.lt_succ_of_lt hh) hchannel.1 hchannel.2, bind, Except.bind,
      checkChannel_ok hchannel.2, readFields_sent hp hh ht, hfilled, halloc, hfirst, hchannel',
      if_neg hbody]
    rfl

/-- `p` with all of the body. -/
def wholeOf (p : RtmpPacketIn) (body : List UInt8) : RtmpPacketIn :=
  if body = [] then p else partway p body body.length

theorem Opened.whole (h : Opened packet headerType t p) : Whole packet headerType t (wholeOf p packet.m_body) := by
  unfold wholeOf
  split
  · next hbody =>
      exact { h with
        read := by rw [h.read, hbody, List.length_nil]
        body := by rw [h.body, hbody, Option.getD_none] }
  · exact {
      type := h.type
      channel := h.channel
      info := h.info
      size := h.size
      abs := h.abs
      time := h.time
      read := rfl
      body := by simp [partway] }

theorem Whole.isReady (h : Whole packet headerType t p) : p.isReady = true := by
  rw [RtmpPacketIn.isReady, decide_eq_true_iff, h.read, h.size]

/-- What `RTMP_SendPacket` keeps of the packet. -/
def RtmpOut.sent (out : RtmpOut) (packet : RtmpPacket) (headerType : ℕ) : RtmpOut :=
  { out with m_vecChannelsOut :=
      Function.update out.m_vecChannelsOut packet.m_nChannel (some { packet with m_headerType := headerType }) }

/-- The chunks of a packet are read as the packet, when the reader cuts the body where the sender does and
    the timestamp is in no header but the first. -/
theorem readReady_sent {out : RtmpOut} (hsync : ChannelsInSync out r) (hp : packet.Sendable)
    (hfits : HeaderFits out packet) (hn : r.m_inChunkSize = n) (hpos : 0 < n)
    (hcut : sentTime out packet < 0xffffff ∧ n = out.m_outChunkSize.bytes ∨
      packet.m_body.length ≤ out.m_outChunkSize.bytes ∧ packet.m_body.length ≤ n) (q : RtmpPacketIn) :
    ∃ sent headerType p, rtmpSendPacket out packet = .ok (sent, out.sent packet headerType) ∧
      Whole packet headerType (sentTime out packet) p ∧
      (headerType = 0 ∧ sentTime out packet = packet.m_nTimeStamp ∨
        headerType ≠ 0 ∧
          (sentTime out packet + r.m_channelTimestamp packet.m_nChannel) % 2 ^ 32 = packet.m_nTimeStamp) ∧
      ∀ rest rounds, sent.length ≤ rounds → readReady rounds r q (sent ++ rest) = .ok (r.keep p, rest) := by
  rcases hcompress : compress (out.m_vecChannelsOut packet.m_nChannel) packet with ⟨headerType, last⟩
  obtain ⟨hh, hopened, hlast⟩ := opened_sent (t := sentTime out packet) hsync hfits q hcompress
  have htime : sentTime out packet = timeSince last packet.m_nTimeStamp := by rw [sentTime, hcompress]
  obtain ⟨p, hp', hfirst⟩ := rtmpReadPacket_first hp hh (sentTime_lt out packet) hopened hn hpos
  have hwhole := hp'.whole
  have hsize := out.m_outChunkSize.pos
  have hstamp : headerType = 0 ∧ sentTime out packet = packet.m_nTimeStamp ∨
      headerType ≠ 0 ∧
        (sentTime out packet + r.m_channelTimestamp packet.m_nChannel) % 2 ^ 32 = packet.m_nTimeStamp := by
    rw [htime]
    obtain ⟨h0, rfl⟩ | ⟨h0, hlt, hchannel⟩ := hlast
    · refine .inl ⟨h0, ?_⟩
      have h := timeSince_add (by decide : 0 < 2 ^ 32) hp.time
      rwa [Nat.add_zero, Nat.mod_eq_of_lt (timeSince_lt _ _)] at h
    · exact .inr ⟨h0, by rw [hchannel, timeSince_add hlt hp.time]⟩
  have hsend : ∀ sent, sendLoop out.m_outChunkSize
        (nextHeader headerType packet.m_nChannel (sentTime out packet)) (packet.m_body.length + 1)
        (firstHeader headerType (sentTime out packet) packet) packet.m_body = .ok sent →
      rtmpSendPacket out packet = .ok (sent, out.sent packet headerType) := fun sent h => by
    unfold rtmpSendPacket
    simp only [if_pos hp.channel.2, hcompress, if_neg (show ¬ headerType > 3 by omega), ← htime, h, bind,
      Except.bind]
    rfl
  have hheader : 0 < (firstHeader headerType (sentTime out packet) packet).length := by
    rw [firstHeader_eq hh]
    exact Nat.succ_pos _
  rw [sendLoop] at hsend
  by_cases hone : packet.m_body.drop out.m_outChunkSize.bytes = []
  · have hlen := List.drop_eq_nil_iff.1 hone
    have hmin : min n packet.m_body.length = packet.m_body.length := by omega
    have htake : packet.m_body.take out.m_outChunkSize.bytes = packet.m_body := List.take_of_length_le hlen
    have htake' : packet.m_body.take n = packet.m_body := List.take_of_length_le (by omega)
    rw [if_pos hone, htake] at hsend
    rw [hmin, htake'] at hfirst
    refine ⟨_, headerType, _, hsend _ rfl, hwhole, hstamp, fun rest rounds hrounds => ?_⟩
    obtain ⟨rounds, rfl⟩ : ∃ m, rounds = m + 1 := by
      rw [List.length_append] at hrounds
      exact ⟨rounds - 1, by omega⟩
    have hready : (wholeOf p packet.m_body).isReady = true := hwhole.isReady
    rw [readReady_succ rounds q _ (hfirst rest)]
    exact if_pos (isReady_keep hready)
  · rw [if_neg hone] at hsend
    rw [List.drop_eq_nil_iff] at hone
    obtain ⟨hshort, rfl⟩ : sentTime out packet < 0xffffff ∧ n = out.m_outChunkSize.bytes := by omega
    have hbody : packet.m_body ≠ [] := fun h => by simp [h] at hone
    have hmin : min out.m_outChunkSize.bytes packet.m_body.length = out.m_outChunkSize.bytes := by omega
    have hnext : ∀ b, nextHeader headerType packet.m_nChannel (sentTime out packet) b =
        channelByte 3 p.m_nChannel :: channelBytes p.m_nChannel := fun b => by
      rw [nextHeader, if_neg (by omega), or_channelByte (by omega), hp'.channel]
    rw [hmin] at hfirst
    simp only [if_neg hbody] at hfirst
    obtain ⟨more, hmore, hlen, htail⟩ := readReady_tail out.m_outChunkSize (k := out.m_outChunkSize.bytes)
      hp'.size (hp'.channel ▸ hp.channel) hnext ((packet.m_body.take out.m_outChunkSize.bytes).getLastD 0)
      (by omega) (show packet.m_body.length - out.m_outChunkSize.bytes < packet.m_body.length by omega)
    refine ⟨_, headerType, _, hsend _ (by rw [hmore]; rfl), hwhole, hstamp, fun rest rounds hrounds => ?_⟩
    obtain ⟨rounds, rfl⟩ : ∃ m, rounds = m + 1 := by
      rw [List.length_append] at hrounds
      exact ⟨rounds - 1, by omega⟩
    have hnot : ({ partway p packet.m_body out.m_outChunkSize.bytes with m_body := none } :
        RtmpPacketIn).isReady = false := by
      rw [RtmpPacketIn.isReady, decide_eq_false_iff_not]
      intro h
      have h' : out.m_outChunkSize.bytes = p.m_nBodySize := h
      rw [hp'.size] at h'
      omega
    have hkept : (r.remember (partway p packet.m_body out.m_outChunkSize.bytes)).m_vecChannelsIn
        p.m_nChannel = some (partway p packet.m_body out.m_outChunkSize.bytes) := Function.update_self _ _ _
    rw [List.length_append, List.length_append] at hrounds
    rw [List.append_assoc, readReady_succ rounds q _ (hfirst (more ++ rest)), keep_partway hp'.size (by omega),
      hnot, if_neg Bool.false_ne_true,
      htail (r.remember (partway p packet.m_body out.m_outChunkSize.bytes)) _ rest rounds hn hkept (by omega),
      keep_whole hp'.size, wholeOf, if_neg hbody]

/-- What the reader makes of a whole packet. -/
theorem keep_received {out : RtmpOut} {q : RtmpPacketIn} (hsync : ChannelsInSync out r)
    (hp : packet.Sendable) (hwhole : Whole packet headerType t q)
    (htime : headerType = 0 ∧ t = packet.m_nTimeStamp ∨
      headerType ≠ 0 ∧ (t + r.m_channelTimestamp packet.m_nChannel) % 2 ^ 32 = packet.m_nTimeStamp) :
    (r.keep q).2.message = packet.message ∧ (r.keep q).2.m_nBodySize = packet.m_body.length ∧
      (r.keep q).2.m_body.getD [] = packet.m_body ∧ (r.keep q).1.m_inChunkSize = r.m_inChunkSize ∧
      ChannelsInSync (out.sent packet headerType) (r.keep q).1 := by
  have hstamp : (if q.m_hasAbsTimestamp then q.m_nTimeStamp
      else (q.m_nTimeStamp + r.m_channelTimestamp packet.m_nChannel) % 2 ^ 32) = packet.m_nTimeStamp := by
    rw [hwhole.abs, hwhole.time]
    obtain ⟨h0, h⟩ | ⟨h0, h⟩ := htime
    · simp only [h0, decide_true, if_true, h]
    · simp only [decide_eq_false h0, Bool.false_eq_true, if_false, h]
  simp only [RtmpIn.keep, hwhole.isReady, if_true, hwhole.channel, hstamp]
  refine ⟨?_, hwhole.size, hwhole.body, trivial, ?_⟩
  · simp only [RtmpPacketIn.message, RtmpPacket.message, hwhole.type, hwhole.info, hwhole.body]
  · intro m_nChannel prev hprev
    by_cases hsame : m_nChannel = packet.m_nChannel
    · subst hsame
      simp only [RtmpOut.sent, Function.update_self] at hprev
      cases hprev
      refine ⟨rfl, hp.time, Function.update_self _ _ _, _, Function.update_self _ _ _, ?_⟩
      exact {
        type := hwhole.type
        channel := rfl
        info := hwhole.info
        size := hwhole.size
        abs := rfl
        read := rfl
        body := rfl }
    · simp only [RtmpOut.sent, Function.update_of_ne hsame] at hprev
      simp only [Function.update_of_ne hsame]
      exact hsync m_nChannel prev hprev

/-! ## Runs -/

/-- Sender and reader between two packets. -/
structure InSync (out : RtmpOut) (state : RtmpIn × RtmpPacketIn) : Prop where
  size : state.1.m_inChunkSize = out.m_outChunkSize.bytes
  /-- A packet with the size of the chunks is one chunk. -/
  four : 4 ≤ out.m_outChunkSize.bytes
  channels : ChannelsInSync out state.1

/-- What the reader of the library gets as it was sent. It looks for a long timestamp in the first header of
    a packet alone, while the sender puts it into every one. -/
def Deliverable (out : RtmpOut) : RtmpSend → Prop
  | .packet packet =>
      packet.Sendable ∧ packet.m_packetType ≠ RTMP_PACKET_TYPE_CHUNK_SIZE ∧ HeaderFits out packet ∧
        (sentTime out packet < 0xffffff ∨ packet.m_body.length ≤ out.m_outChunkSize.bytes)
  | .chunkSize chunk_size => 4 ≤ chunk_size.bytes

theorem nextPacket_of_readReady {state : RtmpIn × RtmpPacketIn} {wire rest : List UInt8}
    {x : RtmpIn × RtmpPacketIn}
    (h : ∀ rounds, wire.length ≤ rounds → readReady rounds state.1 state.2 wire = .ok (x, rest)) :
    nextPacket state wire =
      .ok (x.2.message, (x.1.clientPacket x.2, { x.2 with m_body := none }), rest) := by
  simp only [nextPacket, h _ (Nat.le_succ _), bind, Except.bind]
  rfl

/-- One packet, when the reader cuts it as the sender does. -/
theorem nextPacket_sent {out : RtmpOut} {state : RtmpIn × RtmpPacketIn}
    (hsync : ChannelsInSync out state.1) (hp : packet.Sendable) (hfits : HeaderFits out packet)
    (hn : state.1.m_inChunkSize = n) (hpos : 0 < n)
    (hcut : sentTime out packet < 0xffffff ∧ n = out.m_outChunkSize.bytes ∨
      packet.m_body.length ≤ out.m_outChunkSize.bytes ∧ packet.m_body.length ≤ n) :
    ∃ (sent : List UInt8) (headerType : ℕ) (r : RtmpIn) (q : RtmpPacketIn),
      rtmpSendPacket out packet = .ok (sent, out.sent packet headerType) ∧
      q.message = packet.message ∧ q.m_nBodySize = packet.m_body.length ∧ q.m_body.getD [] = packet.m_body ∧
      r.m_inChunkSize = n ∧ ChannelsInSync (out.sent packet headerType) r ∧
      ∀ rest, nextPacket state (sent ++ rest) =
        .ok (packet.message, (r.clientPacket q, { q with m_body := none }), rest) := by
  obtain ⟨sent, headerType, p, hsend, hwhole, htime, hread⟩ :=
    readReady_sent hsync hp hfits hn hpos hcut state.2
  obtain ⟨hmessage, hsize, hbody, hchunk, hchannels⟩ := keep_received hsync hp hwhole htime
  refine ⟨sent, headerType, (state.1.keep p).1, (state.1.keep p).2, hsend, hmessage, hsize, hbody,
    hchunk.trans hn, hchannels, fun rest => ?_⟩
  rw [nextPacket_of_readReady (x := state.1.keep p) fun rounds hrounds =>
    hread rest rounds (by rw [List.length_append] at hrounds; omega), hmessage]

theorem send_inStep : InStep RtmpOut.send nextPacket InSync Deliverable RtmpSend.message := by
  intro out state call hsync hfine
  have hfour := hsync.four
  cases call with
  | packet packet =>
      obtain ⟨hp, htype, hfits, hcut⟩ := hfine
      obtain ⟨sent, headerType, r, q, hsend, hmessage, -, -, hchunk, hchannels, hread⟩ :=
        nextPacket_sent hsync.channels hp hfits hsync.size (by omega)
          (by rcases hcut with h | h; exacts [.inl ⟨h, rfl⟩, .inr ⟨h, h⟩])
      have hclient : r.clientPacket q = r := by
        have htype' : q.m_packetType = packet.m_packetType := congrArg RtmpMessage.m_packetType hmessage
        rw [RtmpIn.clientPacket, if_neg (htype' ▸ htype)]
      exact ⟨sent, _, _, hsend, ⟨by rw [hclient]; exact hchunk, hfour, by rw [hclient]; exact hchannels⟩, hread⟩
  | chunkSize size =>
      have hsize4 : 4 ≤ size.bytes := hfine
      have hsize31 := size.fits
      have hlen : (chunkSizePacket size).m_body.length = 4 := length_bytesOf 4 _
      have hp : (chunkSizePacket size).Sendable := {
        type := (by decide : 1 < 256)
        channel := (by decide : 2 ≤ 2 ∧ 2 < RTMP_CHANNELS)
        time := (by decide : 0 < 2 ^ 32)
        info := (by decide : -2 ^ 31 ≤ (0 : ℤ) ∧ (0 : ℤ) < 2 ^ 31)
        body := by rw [hlen]; decide }
      have hchannels : ChannelsInSync { out with m_outChunkSize := size } state.1 := hsync.channels
      obtain ⟨sent, headerType, r, q, hsend, hmessage, hbodySize, hbody, -, hchannels, hread⟩ :=
        nextPacket_sent hchannels hp (.inl rfl) hsync.size (by omega)
          (.inr ⟨by rw [hlen]; exact hsize4, by rw [hlen]; exact hfour⟩)
      have htype : q.m_packetType = RTMP_PACKET_TYPE_CHUNK_SIZE :=
        congrArg RtmpMessage.m_packetType hmessage
      have hdecode : amfDecodeInt32 (amfEncodeInt32 size.bytes) = size.bytes := by
        have h := amfDecodeInt32_encode (n := size.bytes) (by omega) []
        rwa [List.append_nil] at h
      have hclient : r.clientPacket q = { r with m_inChunkSize := size.bytes } := by
        rw [RtmpIn.clientPacket, if_pos htype, RtmpIn.handleChangeChunkSize, hbodySize, hlen,
          if_pos (Nat.le_refl 4), hbody]
        have hint : ((amfDecodeInt32 (chunkSizePacket size).m_body : ℕ) : ℤ).bmod (2 ^ 32) = size.bytes := by
          rw [chunkSizePacket, hdecode]
          apply Int.bmod_eq_of_le <;> omega
        rw [hint]
      exact ⟨sent, _, _, hsend, ⟨by rw [hclient]; rfl, hsize4, by rw [hclient]; exact hchannels⟩, hread⟩

theorem inSync_init : InSync .init (.init, .zero) where
  size := rfl
  four := by decide
  channels := fun _ _ h => nomatch h

theorem send_packet_state {out out' : RtmpOut} {sent : List UInt8}
    (h : out.send (.packet packet) = .ok (sent, out')) :
    out' = out.sent packet (compress (out.m_vecChannelsOut packet.m_nChannel) packet).1 := by
  simp only [RtmpOut.send, rtmpSendPacket] at h
  split_ifs at h
  obtain ⟨sent', -, h'⟩ := bind_eq_ok_iff.1 h
  cases h'
  rfl

end SmartPlat.Rtmp
