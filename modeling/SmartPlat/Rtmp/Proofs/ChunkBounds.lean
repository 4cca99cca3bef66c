import SmartPlat.Rtmp.Proofs.ChunkStream

set_option autoImplicit false

/-! # Reading what anyone sends

Whatever bytes arrive, `RTMP_ReadPacket` stays inside the tables of the channels and the bodies it has
allocated, and what it takes for a packet is one that can be sent. -/

namespace SmartPlat.Rtmp

open SmartPlat.Lib

/-- A refusal, after which the connection is closed. -/
def Refusal (stop : RtmpStop) : Prop := stop = .refused

variable {p : RtmpPacketIn} {r : RtmpIn} {wire : List UInt8}

/-! ## The header -/

theorem readN_upholds (n : ℕ) (wire : List UInt8) :
    Upholds Refusal (readN n wire) fun x => x.1.length = n ∧ x.2.length + n = wire.length := by
  unfold readN
  split
  · next h =>
      refine ⟨List.length_take_of_le h, ?_⟩
      rw [List.length_drop]
      omega
  · rfl

theorem readChannel_upholds (wire : List UInt8) :
    Upholds Refusal (readChannel wire) fun x =>
      (2 ≤ x.2.1 ∧ x.2.1 < RTMP_CHANNELS) ∧ x.2.2.length < wire.length := by
  have hchannels : RTMP_CHANNELS = 65600 := rfl
  unfold readChannel
  refine (readN_upholds 1 wire).bind ?_
  rintro ⟨hbuf, wire₁⟩ ⟨-, hlen₁⟩
  have hlow := UInt8.toNat_and (byteAt hbuf 0) 0x3f
  have h63 : (byteAt hbuf 0 &&& 0x3f).toNat ≤ 0x3f := hlow ▸ Nat.and_le_right
  dsimp only at hlen₁ ⊢
  split
  · refine (readN_upholds 1 wire₁).bind ?_
    rintro ⟨hbuf₂, wire₂⟩ ⟨-, hlen₂⟩
    have hb := (byteAt hbuf₂ 0).toNat_lt
    dsimp only at hlen₂
    refine ⟨⟨?_, ?_⟩, ?_⟩
    all_goals
      dsimp only
      omega
  · split
    · refine (readN_upholds 2 wire₁).bind ?_
      rintro ⟨hbuf₂, wire₂⟩ ⟨-, hlen₂⟩
      have hb := (byteAt hbuf₂ 0).toNat_lt
      have hb' := (byteAt hbuf₂ 1).toNat_lt
      have hshift := Nat.shiftLeft_eq (byteAt hbuf₂ 1).toNat 8
      dsimp only at hlen₂
      refine ⟨⟨?_, ?_⟩, ?_⟩
      all_goals
        dsimp only
        omega
    · refine ⟨⟨?_, ?_⟩, ?_⟩
      all_goals
        dsimp only
        omega

/-! ## The fields -/

/-- A header that can be sent, with a body that is in the block as far as it has been read. -/
structure Sized (p : RtmpPacketIn) : Prop where
  type : p.m_packetType < 256
  time : p.m_nTimeStamp < 2 ^ 32
  info : -2 ^ 31 ≤ p.m_nInfoField2 ∧ p.m_nInfoField2 < 2 ^ 31
  size : p.m_nBodySize < 2 ^ 24
  read : p.m_nBytesRead ≤ p.m_nBodySize
  block : ∀ block, p.m_body = some block → block.length = p.m_nBodySize

theorem int32At_range (b : List UInt8) (k : ℕ) : -2 ^ 31 ≤ int32At b k ∧ int32At b k < 2 ^ 31 := by
  have h0 := (byteAt b k).toNat_lt
  have h1 := (byteAt b (k + 1)).toNat_lt
  have h2 := (byteAt b (k + 2)).toNat_lt
  have h3 := (byteAt b (k + 3)).toNat_lt
  unfold int32At uint32At
  split <;> omega

theorem amfDecodeInt24_lt (data : List UInt8) : amfDecodeInt24 data < 2 ^ 24 :=
  Nat.lt_of_lt_of_le (ofBytes_lt _) (Nat.pow_le_pow_right (by decide)
    (by have := List.length_take_le 3 data; omega))

theorem amfDecodeInt32_lt (data : List UInt8) : amfDecodeInt32 data < 2 ^ 32 :=
  Nat.lt_of_lt_of_le (ofBytes_lt _) (Nat.pow_le_pow_right (by decide)
    (by have := List.length_take_le 4 data; omega))

theorem Sized.withFields (h : Sized p) (nSize : ℕ) (header : List UInt8) :
    Sized (p.withFields nSize header) ∧ (p.withFields nSize header).m_nChannel = p.m_nChannel := by
  have htime : amfDecodeInt24 header < 2 ^ 32 :=
    Nat.lt_trans (amfDecodeInt24_lt header) (by decide)
  have hsize := amfDecodeInt24_lt (header.drop 3)
  have htype := (byteAt header 6).toNat_lt
  have hinfo := int32At_range (header.drop 7) 0
  unfold RtmpPacketIn.withFields
  split_ifs
  · exact ⟨⟨htype, htime, hinfo, hsize, Nat.zero_le _, fun block h => nomatch h⟩, rfl⟩
  · exact ⟨⟨htype, htime, h.info, hsize, Nat.zero_le _, fun block h => nomatch h⟩, rfl⟩
  · exact ⟨⟨h.type, htime, h.info, hsize, Nat.zero_le _, fun block h => nomatch h⟩, rfl⟩
  · exact ⟨⟨h.type, htime, h.info, h.size, h.read, h.block⟩, rfl⟩

theorem readFields_upholds (headerType : ℕ) (h : Sized p) (wire : List UInt8) :
    Upholds Refusal (readFields headerType p wire) fun x =>
      (Sized x.1 ∧ x.1.m_nChannel = p.m_nChannel) ∧ x.2.length ≤ wire.length := by
  unfold readFields
  refine (readN_upholds _ wire).bind ?_
  rintro ⟨header, wire₁⟩ ⟨-, hlen₁⟩
  obtain ⟨hfields, hchannel⟩ := h.withFields (packetSize headerType - 1) header
  dsimp only at hlen₁ ⊢
  split
  · split
    · refine (readN_upholds 4 wire₁).bind ?_
      rintro ⟨header₂, wire₂⟩ ⟨-, hlen₂⟩
      dsimp only at hlen₂
      exact ⟨⟨{ hfields with time := amfDecodeInt32_lt header₂ }, hchannel⟩, by dsimp only; omega⟩
    · exact ⟨⟨hfields, hchannel⟩, by dsimp only; omega⟩
  · exact ⟨⟨h, rfl⟩, by dsimp only; omega⟩

/-! ## The body -/

theorem Sized.alloc (h : Sized p) (headerType : ℕ) :
    Sized (p.alloc headerType) ∧ (p.alloc headerType).m_nChannel = p.m_nChannel ∧
      ((p.alloc headerType).m_body = none → (p.alloc headerType).m_nBodySize = 0) := by
  unfold RtmpPacketIn.alloc
  split
  · refine ⟨⟨h.type, h.time, h.info, h.size, Nat.zero_le _, ?_⟩, rfl, fun hnone => nomatch hnone⟩
    intro block hblock
    cases hblock
    exact List.length_replicate
  · next hno =>
      refine ⟨h, rfl, fun hnone => ?_⟩
      by_contra hpos
      exact hno ⟨Nat.pos_of_ne_zero hpos, hnone⟩

theorem putBody_upholds {place : ℕ} {chunk : List UInt8} {size : ℕ} (m_body : Option (List UInt8))
    (hblock : ∀ block, m_body = some block → block.length = size) (hnone : m_body = none → size = 0)
    (hfits : place + chunk.length ≤ size) :
    Upholds Refusal (putBody m_body place chunk) fun x =>
      (∀ block, x = some block → block.length = size) ∧ (x = none → size = 0) := by
  cases m_body with
  | none =>
      have hchunk : chunk = [] := by
        rw [hnone rfl] at hfits
        exact List.eq_nil_of_length_eq_zero (by omega)
      rw [putBody, if_pos hchunk]
      exact ⟨hblock, hnone⟩
  | some block =>
      have hsize := hblock block rfl
      simp only [putBody, if_pos (hsize ▸ hfits : place + chunk.length ≤ block.length)]
      refine ⟨fun block' h => ?_, fun h => absurd h (Option.some_ne_none _)⟩
      cases h
      simp only [List.length_append, List.length_take, List.length_drop]
      omega

theorem readBody_upholds (h : Sized p) (hnone : p.m_body = none → p.m_nBodySize = 0) (wire : List UInt8) :
    Upholds Refusal (r.readBody p wire) fun x =>
      (Sized x.1 ∧ x.1.m_nChannel = p.m_nChannel ∧ (x.1.m_body = none → x.1.m_nBodySize = 0)) ∧
        x.2.length ≤ wire.length := by
  have hread := h.read
  unfold RtmpIn.readBody
  extract_lets nToRead nChunk
  have hchunk : nChunk.toNat ≤ p.m_nBodySize - p.m_nBytesRead := by
    have hle : nChunk ≤ nToRead := by
      unfold nChunk
      split <;> omega
    omega
  split
  · rfl
  · refine (readN_upholds _ wire).bind ?_
    rintro ⟨chunk, wire₁⟩ ⟨hchunkLen, hlen⟩
    dsimp only at hchunkLen hlen ⊢
    refine (putBody_upholds p.m_body h.block hnone (by omega)).bind ?_
    rintro m_body ⟨hblock, hnone'⟩
    exact ⟨⟨⟨h.type, h.time, h.info, h.size, by dsimp only; omega, hblock⟩, rfl, hnone'⟩,
      by dsimp only; omega⟩

/-! ## What is kept -/

structure ReaderInv (state : RtmpIn × RtmpPacketIn) : Prop where
  kept : ∀ m_nChannel p, state.1.m_vecChannelsIn m_nChannel = some p → p.m_nChannel = m_nChannel ∧ Sized p
  packet : Sized state.2

theorem ReaderInv.startPacket {q : RtmpPacketIn} (h : ReaderInv (r, q)) (headerType m_nChannel : ℕ) :
    Sized (r.startPacket headerType m_nChannel q) ∧
      (r.startPacket headerType m_nChannel q).m_nChannel = m_nChannel := by
  have hq := h.packet
  unfold RtmpIn.startPacket
  split
  · exact ⟨{ hq with }, rfl⟩
  · cases hkept : r.m_vecChannelsIn m_nChannel with
    | none => exact ⟨{ hq with }, rfl⟩
    | some p =>
        obtain ⟨hchannel, hp⟩ := h.kept m_nChannel p hkept
        exact ⟨hp, hchannel⟩

theorem ReaderInv.keep {q : RtmpPacketIn} (h : ReaderInv (r, q)) (hp : Sized p) : ReaderInv (r.keep p) := by
  unfold RtmpIn.keep
  split
  · refine ⟨fun m_nChannel p' hkept => ?_, { hp with time := ?_ }⟩
    · by_cases hsame : m_nChannel = p.m_nChannel
      · subst hsame
        simp only [Function.update_self] at hkept
        cases hkept
        exact ⟨rfl, ⟨hp.type, hp.time, hp.info, hp.size, Nat.zero_le _, fun block h => nomatch h⟩⟩
      · simp only [Function.update_of_ne hsame] at hkept
        exact h.kept m_nChannel p' hkept
    · dsimp only
      split
      · exact hp.time
      · exact Nat.mod_lt _ (by decide)
  · refine ⟨fun m_nChannel p' hkept => ?_, { hp with block := fun block h => nomatch h }⟩
    by_cases hsame : m_nChannel = p.m_nChannel
    · subst hsame
      simp only [Function.update_self] at hkept
      cases hkept
      exact ⟨rfl, hp⟩
    · simp only [Function.update_of_ne hsame] at hkept
      exact h.kept m_nChannel p' hkept

theorem rtmpReadPacket_upholds {q : RtmpPacketIn} (h : ReaderInv (r, q)) (wire : List UInt8) :
    Upholds Refusal (rtmpReadPacket r q wire) fun x =>
      (ReaderInv x.1 ∧ (2 ≤ x.1.2.m_nChannel ∧ x.1.2.m_nChannel < RTMP_CHANNELS) ∧
        (x.1.2.isReady = true → x.1.2.m_body = none → x.1.2.m_nBodySize = 0)) ∧
        x.2.length < wire.length := by
  unfold rtmpReadPacket
  refine (readChannel_upholds wire).bind ?_
  rintro ⟨headerType, m_nChannel, wire₁⟩ ⟨hchannel, hlen₁⟩
  dsimp only at hchannel hlen₁ ⊢
  rw [checkChannel_ok hchannel.2]
  obtain ⟨hstart, hstartChannel⟩ := h.startPacket headerType m_nChannel
  refine (readFields_upholds headerType hstart wire₁).bind ?_
  rintro ⟨p₂, wire₂⟩ ⟨⟨hp₂, hchannel₂⟩, hlen₂⟩
  dsimp only at hp₂ hchannel₂ hlen₂ ⊢
  obtain ⟨halloc, hallocChannel, hnone⟩ := hp₂.alloc headerType
  refine (readBody_upholds (r := r) halloc hnone wire₂).bind ?_
  rintro ⟨p₃, wire₃⟩ ⟨⟨hp₃, hchannel₃, hnone₃⟩, hlen₃⟩
  dsimp only at hp₃ hchannel₃ hnone₃ hlen₃ ⊢
  have hsame : p₃.m_nChannel = m_nChannel := by
    rw [hchannel₃, hallocChannel, hchannel₂, hstartChannel]
  rw [checkChannel_ok (hsame ▸ hchannel.2)]
  have hkeepChannel : (r.keep p₃).2.m_nChannel = m_nChannel := by
    rw [← hsame]
    unfold RtmpIn.keep
    split <;> rfl
  refine ⟨⟨h.keep hp₃, by rw [hkeepChannel]; exact hchannel, ?_⟩, by dsimp only; omega⟩
  unfold RtmpIn.keep
  split
  · exact fun _ => hnone₃
  · next hno => exact fun hready => absurd hready hno

/-- Every round takes a byte at least, so that there are enough rounds. -/
theorem readReady_upholds (rounds : ℕ) {q : RtmpPacketIn} (h : ReaderInv (r, q)) (wire : List UInt8)
    (hrounds : wire.length < rounds) :
    Upholds Refusal (readReady rounds r q wire) fun x =>
      ReaderInv x.1 ∧ (2 ≤ x.1.2.m_nChannel ∧ x.1.2.m_nChannel < RTMP_CHANNELS) ∧
        (x.1.2.m_body.getD []).length = x.1.2.m_nBodySize := by
  induction rounds generalizing r q wire with
  | zero => omega
  | succ rounds ih =>
      unfold readReady
      refine (rtmpReadPacket_upholds h wire).bind ?_
      rintro ⟨⟨r₁, q₁⟩, wire₁⟩ ⟨⟨hinv, hchannel, hnone⟩, hlen⟩
      dsimp only at hinv hchannel hnone hlen ⊢
      split
      · next hready =>
          refine ⟨hinv, hchannel, ?_⟩
          dsimp only
          cases hbody : q₁.m_body with
          | none => exact (hnone hready hbody).symm
          | some block => exact hinv.packet.block block hbody
      · exact ih hinv wire₁ (by omega)

/-- A message that some packet could have said. -/
def Sayable (m : RtmpMessage) : Prop := ∃ packet : RtmpPacket, packet.Sendable ∧ packet.message = m

theorem nextPacket_upholds (state : RtmpIn × RtmpPacketIn) (wire : List UInt8) (h : ReaderInv state) :
    Upholds Refusal (nextPacket state wire) fun x => Sayable x.1 ∧ ReaderInv x.2.1 := by
  unfold nextPacket
  refine (readReady_upholds (wire.length + 1) h wire (Nat.lt_succ_self _)).bind ?_
  rintro ⟨⟨r₁, q₁⟩, wire₁⟩ ⟨hinv, hchannel, hbody⟩
  dsimp only at hinv hchannel hbody ⊢
  have hq := hinv.packet
  refine ⟨⟨⟨0, q₁.m_packetType, q₁.m_nChannel, q₁.m_nTimeStamp, q₁.m_nInfoField2, q₁.m_body.getD []⟩,
    ⟨hq.type, hchannel, hq.time, hq.info, ?_⟩, rfl⟩, ?_, { hq with block := fun block h => nomatch h }⟩
  · dsimp only
    rw [hbody]
    exact hq.size
  · intro m_nChannel p hkept
    dsimp only at hkept
    unfold RtmpIn.clientPacket RtmpIn.handleChangeChunkSize at hkept
    split_ifs at hkept
    all_goals exact hinv.kept m_nChannel p hkept

theorem readerInv_init : ReaderInv (.init, .zero) where
  kept := fun _ _ h => nomatch h
  packet := ⟨by decide, by decide, by decide, by decide, by decide, fun _ h => nomatch h⟩

end SmartPlat.Rtmp
