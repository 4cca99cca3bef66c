import SmartPlat.WebServer.Frames

set_option autoImplicit false

/-! # What a frame is read back as

`ParsingFrameHeader` takes the four bytes behind the length for the key of every frame. In a masked
frame they are the key, and the payload comes back; in any other frame they are the first bytes of the
payload. -/

namespace SmartPlat.WebServer

open SmartPlat.Lib

variable {data package package' behind body lenBytes : List UInt8} {n packageMaxLen : ℕ}
  {code byte : UInt8} {isMask : Bool} {type : WebsocketCommunicationType} {rand : ℕ → UInt8}
  {ret recvLen : ℤ}

/-! ## Headers -/

/-- The second byte of a frame before the length is or-ed to it. -/
def maskBit (isMask : Bool) : UInt8 := if isMask then 0x80 else 0

theorem small_length (isMask : Bool) (h : n < 126) :
    ((maskBit isMask ||| UInt8.ofNat n) &&& 0x7F).toNat = n := by
  have hall : ∀ isMask, ∀ k : Fin 126,
      ((maskBit isMask ||| UInt8.ofNat k) &&& 0x7F).toNat = k := by
    decide
  exact hall isMask ⟨n, h⟩

theorem length_126 (isMask : Bool) : ((maskBit isMask ||| 0x7E) &&& 0x7F).toNat = 126 := by
  cases isMask <;> rfl

theorem length_127 (isMask : Bool) : ((maskBit isMask ||| 0x7F) &&& 0x7F).toNat = 127 := by
  cases isMask <;> rfl

/-- A length below 126 is in the second byte. -/
theorem parse_small (h : n < 126) (hrecv : 0 < recvLen) (code : UInt8) (isMask : Bool)
    (body : List UInt8) :
    ∃ head, parsingFrameHeader (code :: (maskBit isMask ||| UInt8.ofNat n) :: body) recvLen .zero
        = readMaskingKey (code :: (maskBit isMask ||| UInt8.ofNat n) :: body) 2 head ∧
      head.payloadLength = n := by
  have hbyte := small_length isMask h
  refine ⟨readFirstBytes (code :: (maskBit isMask ||| UInt8.ofNat n) :: body) .zero, ?_, hbyte⟩
  have hpayload : (readFirstBytes (code :: (maskBit isMask ||| UInt8.ofNat n) :: body)
      .zero).payloadLength = n := hbyte
  unfold parsingFrameHeader
  simp only [hpayload]
  rw [if_neg (by omega), if_neg (by simp), if_neg (by omega), if_neg (by omega)]

/-- A length below 65536 is in two bytes. -/
theorem parse_medium (hrecv : 0 < recvLen) (code : UInt8) (isMask : Bool) (b₁ b₀ : UInt8)
    (body : List UInt8) :
    ∃ head, parsingFrameHeader (code :: (maskBit isMask ||| 0x7E) :: b₁ :: b₀ :: body) recvLen .zero
        = readMaskingKey (code :: (maskBit isMask ||| 0x7E) :: b₁ :: b₀ :: body) 4 head ∧
      head.payloadLength = 256 * b₁.toNat + b₀.toNat := by
  have hpayload : (readFirstBytes (code :: (maskBit isMask ||| 0x7E) :: b₁ :: b₀ :: body)
      .zero).payloadLength = 126 := length_126 isMask
  unfold parsingFrameHeader
  simp only [hpayload]
  rw [if_neg (by omega), if_neg (by simp), if_pos trivial, if_neg (by simp)]
  exact ⟨_, rfl, rfl⟩

/-- A longer one is in eight, of which the last four count. -/
theorem parse_large (hrecv : 0 < recvLen) (code : UInt8) (isMask : Bool)
    (b₇ b₆ b₅ b₄ b₃ b₂ b₁ b₀ : UInt8) (body : List UInt8) :
    ∃ head, parsingFrameHeader (code :: (maskBit isMask ||| 0x7F) :: b₇ :: b₆ :: b₅ :: b₄ :: b₃ ::
          b₂ :: b₁ :: b₀ :: body) recvLen .zero
        = readMaskingKey (code :: (maskBit isMask ||| 0x7F) :: b₀ :: b₁ :: b₂ :: b₃ :: b₄ :: b₅ ::
          b₆ :: b₇ :: body) 10 head ∧
      head.payloadLength = b₀.toNat + 256 * b₁.toNat + 65536 * b₂.toNat + 16777216 * b₃.toNat := by
  have hpayload : (readFirstBytes (code :: (maskBit isMask ||| 0x7F) :: b₇ :: b₆ :: b₅ :: b₄ :: b₃ ::
      b₂ :: b₁ :: b₀ :: body) .zero).payloadLength = 127 := length_127 isMask
  unfold parsingFrameHeader
  simp only [hpayload]
  rw [if_neg (by omega), if_neg (by simp), if_neg (by omega), if_pos trivial, if_neg (by simp)]
  exact ⟨_, rfl, rfl⟩

/-- **The length is read back as it was written**, and the key is looked for right behind it. -/
theorem parsingFrameHeader_eq (hlen : lengthBytes (maskBit isMask) n packageMaxLen = some lenBytes)
    (hn : n < 0xFFFFFFFF) (hrecv : 0 < recvLen) (code : UInt8) (body : List UInt8) :
    ∃ head front, parsingFrameHeader (code :: (lenBytes ++ body)) recvLen .zero
        = readMaskingKey (front ++ body) front.length head ∧
      front.length = lenBytes.length + 1 ∧ head.payloadLength = n := by
  unfold lengthBytes at hlen
  split at hlen
  · next h126 =>
      cases hlen
      obtain ⟨head, hhead, hpayload⟩ := parse_small h126 hrecv code isMask body
      exact ⟨head, [_, _], hhead, rfl, hpayload⟩
  · split at hlen
    · next h65536 =>
        split at hlen
        · cases hlen
        · cases hlen
          obtain ⟨head, hhead, hpayload⟩ := parse_medium hrecv code isMask (UInt8.ofNat (n / 256))
            (UInt8.ofNat n) body
          refine ⟨head, [_, _, _, _], hhead, rfl, hpayload.trans ?_⟩
          simp only [UInt8.toNat_ofNat']
          omega
    · split at hlen
      · cases hlen
      · cases hlen
        obtain ⟨head, hhead, hpayload⟩ := parse_large hrecv code isMask 0 0 0 0
          (UInt8.ofNat (n / 16777216)) (UInt8.ofNat (n / 65536)) (UInt8.ofNat (n / 256))
          (UInt8.ofNat n) body
        refine ⟨head, [_, _, _, _, _, _, _, _, _, _], hhead, rfl, hpayload.trans ?_⟩
        simp only [UInt8.toNat_ofNat']
        omega

/-! ## What is delivered -/

/-- `WebRequst` reads `payload` out of a message: its length, and its bytes from `headLen` on. -/
def Delivers (recvMsg : List UInt8) (recvLen : ℤ) (payload : List UInt8) : Prop :=
  ∃ head msg, unmaskFrame recvMsg recvLen = .ok (head, msg) ∧ head.payloadLength = payload.length ∧
    (msg.drop head.headLen).take head.payloadLength = payload

instance (recvMsg : List UInt8) (recvLen : ℤ) (payload : List UInt8) :
    Decidable (Delivers recvMsg recvLen payload) :=
  match h : unmaskFrame recvMsg recvLen with
  | .error _ => isFalse fun ⟨_, _, h', _⟩ => nomatch h.symm.trans h'
  | .ok (head, msg) =>
      decidable_of_iff (head.payloadLength = payload.length ∧
          (msg.drop head.headLen).take head.payloadLength = payload)
        ⟨fun hd => ⟨head, msg, h, hd⟩, fun ⟨_, _, h', hd⟩ => by
          cases h.symm.trans h'
          exact hd⟩

theorem toInt32_of_lt (h : n < 2 ^ 31) : toInt32 n = n :=
  Int.bmod_eq_of_le (by omega) (by omega)

theorem toInt32_cond (h : n < 2 ^ 32) : toInt32 n = if n < 2 ^ 31 then (n : ℤ) else n - 2 ^ 32 := by
  by_cases hlt : n < 2 ^ 31
  · rw [if_pos hlt, toInt32_of_lt hlt]
  · rw [if_neg hlt]
    have hcycle : toInt32 n = ((n : ℤ) - (2 ^ 32 : ℕ)).bmod (2 ^ 32) := (Int.sub_bmod_right _ _).symm
    rw [hcycle]
    exact Int.bmod_eq_of_le (by omega) (by omega)

theorem byteAt_take_mod (i : ℕ) : byteAt (body.take 4) (i % 4) = byteAt body (i % 4) :=
  byteAt_take (Nat.mod_lt _ (by decide))

theorem readMaskingKey_eq (front body : List UInt8) (head : FramHead) :
    readMaskingKey (front ++ body) front.length head =
      if body.length < 4 then .error .badAccess
      else .ok (0, { head with maskingKey := body.take 4, headLen := front.length + 4 }, front ++ body) := by
  unfold readMaskingKey
  by_cases hkey : body.length < 4
  · rw [if_pos hkey, if_pos (by rw [List.length_append]; omega)]
  · rw [if_neg hkey, if_neg (by rw [List.length_append]; omega), List.drop_left]

theorem webumask_eq (front body : List UInt8) (n : ℕ) :
    webumask (front ++ body) (front.length + 4) n (body.take 4) =
      if body.length < n + 4 then .error .badAccess
      else .ok (front ++ body.take 4 ++ cycleXor 4 (byteAt body) ((body.drop 4).take n) ++
        body.drop (4 + n)) := by
  unfold webumask
  rw [Int.toNat_natCast]
  by_cases hroom : body.length < n + 4
  · rw [if_pos hroom, if_pos (by rw [List.length_append]; omega)]
  · have hdrop (k : ℕ) : (front ++ body).drop (front.length + k) = body.drop k := by
      rw [← List.drop_drop, List.drop_left]
    rw [if_neg hroom, if_neg (by rw [List.length_append]; omega), Nat.add_assoc, hdrop, hdrop,
      List.take_length_add_append]
    simp only [byteAt_take_mod]
    rfl

/-- **What is read behind a header**: the bytes from the fifth on, combined with the first four. -/
theorem delivers_iff (hlen : lengthBytes (maskBit isMask) data.length packageMaxLen = some lenBytes)
    (hn : data.length < 2 ^ 31) (hrecv : 0 < recvLen) :
    Delivers (code :: (lenBytes ++ body)) recvLen data ↔ data.length + 4 ≤ body.length ∧
      cycleXor 4 (byteAt body) ((body.drop 4).take data.length) = data := by
  obtain ⟨head, front, hparse, hfront, hpayload⟩ :=
    parsingFrameHeader_eq hlen (by omega) hrecv code body
  have hint : toInt32 head.payloadLength = data.length := by rw [hpayload, toInt32_of_lt hn]
  rw [Delivers, unmaskFrame, hparse, readMaskingKey_eq]
  by_cases hkey : body.length < 4
  · rw [if_pos hkey]
    exact iff_of_false (fun ⟨_, _, h, _⟩ => nomatch h) (by omega)
  · rw [if_neg hkey, Except.bind, hint, webumask_eq]
    -- the first four bytes of the body are taken for the key, whether or not the frame has one
    by_cases hroom : body.length < data.length + 4
    · rw [if_pos hroom]
      exact iff_of_false (fun ⟨_, _, h, _⟩ => nomatch h) (by omega)
    · rw [if_neg hroom, Except.map]
      have hpre : (front ++ body.take 4).length = front.length + 4 := by
        rw [List.length_append, List.length_take]
        omega
      have hmasked : (cycleXor 4 (byteAt body) ((body.drop 4).take data.length)).length
          = data.length := by
        rw [length_cycleXor, List.length_take, List.length_drop]
        omega
      have hread : ((front ++ body.take 4 ++ cycleXor 4 (byteAt body) ((body.drop 4).take data.length)
            ++ body.drop (4 + data.length)).drop (front.length + 4)).take data.length
          = cycleXor 4 (byteAt body) ((body.drop 4).take data.length) := by
        rw [List.append_assoc, ← hpre, List.drop_left, List.take_left' hmasked]
      constructor
      · rintro ⟨_, _, hret, -, hpay⟩
        cases hret
        rw [hpayload, hread] at hpay
        exact ⟨by omega, hpay⟩
      · intro ⟨_, hpay⟩
        exact ⟨_, _, rfl, hpayload, by rw [hpayload, hread, hpay]⟩

/-! ## Frames of `webSocket_enPackage` -/

theorem maskByte_eq (temp1 temp2 : UInt8) : maskByte temp1 temp2 = temp2 ^^^ temp1 := by
  rw [← UInt8.toBitVec_inj]
  simp only [maskByte, UInt8.toBitVec_or, UInt8.toBitVec_and, UInt8.toBitVec_not, UInt8.toBitVec_xor]
  ext i hi
  simp only [BitVec.getElem_or, BitVec.getElem_and, BitVec.getElem_not, BitVec.getElem_xor]
  cases temp1.toBitVec[i] <;> cases temp2.toBitVec[i] <;> rfl

/-- The bitwise masking of the source is the cyclic exclusive or. -/
theorem mapIdx_maskByte (key d : List UInt8) :
    (d.mapIdx fun i b => maskByte (byteAt key (i % 4)) b) = cycleXor 4 (byteAt key) d := by
  simp only [maskByte_eq]
  rfl

theorem length_getRandomString (rand : ℕ → UInt8) : (webSocketGetRandomString rand).length = 4 := rfl

/-- What stands behind the length. -/
def frameBody (data : List UInt8) (isMask : Bool) (rand : ℕ → UInt8) : List UInt8 :=
  if isMask then
    webSocketGetRandomString rand ++ cycleXor 4 (byteAt (webSocketGetRandomString rand)) data
  else data

theorem length_lengthBytes (h : lengthBytes byte n packageMaxLen = some lenBytes) :
    lenBytes.length ≤ 9 := by
  unfold lengthBytes at h
  split at h
  · cases h
    simp
  · split at h
    · split at h
      · cases h
      · cases h
        simp
    · split at h
      · split at h
        · cases h
        · cases h
          simp
      · cases h
        simp

theorem toNat_toInt32 (h : n < 2 ^ 32) (h0 : 0 ≤ toInt32 n) : (toInt32 n).toNat = n := by
  rw [toInt32_cond h] at h0 ⊢
  split at h0
  · next hlt => rw [if_pos hlt, Int.toNat_natCast]
  · omega

theorem take_fillPackage {bytes : List UInt8}
    (h : (fillPackage package (bytes ++ [0])).map (fun p => (toInt32 n, p)) = .ok (ret, package'))
    (hn : n = bytes.length) (hlt : n < 2 ^ 32) (hret : 0 ≤ ret) :
    package'.take ret.toNat = bytes := by
  obtain ⟨p, hp, heq⟩ := map_eq_ok_iff.1 h
  obtain ⟨rfl, rfl⟩ := Prod.mk.inj heq
  unfold fillPackage at hp
  split at hp
  · cases hp
    rw [toNat_toInt32 hlt hret, hn, List.append_assoc, List.take_left]
  · cases hp

/-- The bytes of a frame, in a buffer that was cleared. -/
theorem enPackage_eq (hlen : data.length < 2 ^ 31) (hclear : ∀ b ∈ package, b = 0)
    (hrun : webSocketEnPackage data package packageMaxLen isMask type rand = .ok (ret, package'))
    (hret : 0 ≤ ret) :
    ∃ code lenBytes, lengthBytes (maskBit isMask) data.length packageMaxLen = some lenBytes ∧
      package'.take ret.toNat = code :: (lenBytes ++ frameBody data isMask rand) := by
  have hbyte : (if isMask then 0x80 else byteAt package 1) = maskBit isMask := by
    have hzero : byteAt package 1 = 0 := by
      rw [byteAt, List.getD_eq_getElem?_getD]
      cases hb : package[1]? with
      | none => rfl
      | some b => exact hclear b (List.mem_of_getElem? hb)
    rw [hzero, maskBit]
  have hrefused {x : Except Fault (List UInt8)}
      (h : x.map (fun p => ((-1 : ℤ), p)) = .ok (ret, package')) : False := by
    obtain ⟨_, -, heq⟩ := map_eq_ok_iff.1 h
    injection heq with heq
    omega
  unfold webSocketEnPackage at hrun
  simp only [hbyte, mapIdx_maskByte] at hrun
  split at hrun
  · cases hrun
    omega
  · split at hrun
    · cases hrun
      omega
    · next code _ =>
        split at hrun
        · exact (hrefused hrun).elim
        · next lenBytes hlenBytes =>
            refine ⟨code, lenBytes, hlenBytes, ?_⟩
            have hle := length_lengthBytes hlenBytes
            -- either way the frame ends in a zero that is not counted
            by_cases hmask : isMask = true
            · rw [if_pos hmask] at hrun
              split at hrun
              · exact (hrefused hrun).elim
              · rw [frameBody, if_pos hmask]
                refine take_fillPackage (by simpa only [List.cons_append, List.append_assoc] using hrun)
                  ?_ ?_ hret <;>
                  simp only [List.length_cons, List.length_append, length_getRandomString,
                    length_cycleXor] <;> omega
            · rw [if_neg hmask] at hrun
              split at hrun
              · exact (hrefused hrun).elim
              · rw [frameBody, if_neg hmask]
                refine take_fillPackage (by simpa only [List.cons_append, List.append_assoc] using hrun)
                  ?_ ?_ hret <;>
                  simp only [List.length_cons, List.length_append] <;> omega

/-! ## Round trips -/

/-- The payload and the bytes behind it are blocks of four, the first one and zeros in turn. -/
def EveryOtherBlockZero (data behind : List UInt8) : Prop :=
  data.length + 4 ≤ (data ++ behind).length ∧
    Alternates 4 (data.length + 4) (byteAt (data ++ behind))

theorem delivers_masked (key behind : List UInt8) (hkey : key.length = 4) :
    data.length + 4 ≤ (key ++ cycleXor 4 (byteAt key) data ++ behind).length ∧
      cycleXor 4 (byteAt (key ++ cycleXor 4 (byteAt key) data ++ behind))
        (((key ++ cycleXor 4 (byteAt key) data ++ behind).drop 4).take data.length) = data := by
  refine ⟨?_, ?_⟩
  · simp only [List.length_append, length_cycleXor]
    omega
  · have hdrop : (key ++ cycleXor 4 (byteAt key) data ++ behind).drop 4
        = cycleXor 4 (byteAt key) data ++ behind := by
      rw [List.append_assoc, ← hkey, List.drop_left]
    rw [hdrop, List.take_left' length_cycleXor]
    have hstart : ∀ i < 4, byteAt (key ++ cycleXor 4 (byteAt key) data ++ behind) i = byteAt key i := by
      intro i hi
      rw [List.append_assoc, byteAt_append_left (by omega)]
    rw [cycleXor_congr hstart (by decide), cycleXor_cycleXor]

theorem delivers_unmasked (data behind : List UInt8) :
    (data.length + 4 ≤ (data ++ behind).length ∧ cycleXor 4 (byteAt (data ++ behind))
        (((data ++ behind).drop 4).take data.length) = data) ↔ EveryOtherBlockZero data behind := by
  refine and_congr_right fun hroom => ?_
  rw [← xor_start_iff (by decide)]
  have hlen : (((data ++ behind).drop 4).take data.length).length = data.length := by
    rw [List.length_take, List.length_drop]
    omega
  constructor
  · intro h i hi
    have hi' := congrArg (byteAt · i) h
    rw [byteAt_cycleXor (by omega), byteAt_take hi, byteAt_drop] at hi'
    rw [byteAt_append_left hi, Nat.add_comm]
    exact hi'
  · intro h
    refine ext_byteAt (by rw [length_cycleXor, hlen]) fun i hi => ?_
    rw [length_cycleXor, hlen] at hi
    rw [byteAt_cycleXor (by omega), byteAt_take hi, byteAt_drop, Nat.add_comm, h i hi,
      byteAt_append_left hi]

/-- **When a frame is read back as the payload that was put into it.** For every length, content, type
    and key: when it is masked, or when the payload runs in blocks of four bytes that are zero every
    other time, also in the four bytes that the receive buffer holds behind it. -/
theorem frame_roundTrip_iff (hlen : data.length < 2 ^ 31) (hclear : ∀ b ∈ package, b = 0)
    (hrun : webSocketEnPackage data package packageMaxLen isMask type rand = .ok (ret, package'))
    (hret : 0 ≤ ret) :
    Delivers (package'.take ret.toNat ++ behind) ret data ↔
      isMask = true ∨ EveryOtherBlockZero data behind := by
  obtain ⟨code, lenBytes, hlenBytes, hframe⟩ := enPackage_eq hlen hclear hrun hret
  have hpos : 0 < ret := by
    by_contra hnot
    rw [Int.toNat_of_nonpos (by omega)] at hframe
    cases hframe
  rw [hframe, List.cons_append, List.append_assoc, delivers_iff hlenBytes hlen hpos, frameBody]
  by_cases hmask : isMask = true
  · rw [if_pos hmask]
    exact iff_of_true (delivers_masked _ _ (length_getRandomString rand)) (.inl hmask)
  · rw [if_neg hmask, delivers_unmasked, or_iff_right hmask]

/-- A masked text, in a receive buffer with ten more bytes. -/
theorem frame_roundTrip_masked :
    Delivers ([0x81, 0x85, 0x80, 1, 2, 3, 0xE8, 0x64, 0x6E, 0x6F, 0xEF] ++ List.replicate 10 0) 11
      [0x68, 0x65, 0x6C, 0x6C, 0x6F] := by
  have hrun : webSocketEnPackage [0x68, 0x65, 0x6C, 0x6C, 0x6F] (List.replicate 133 0) 1029 true
      .WCT_TXTDATA UInt8.ofNat = .ok (11, [0x81, 0x85, 0x80, 1, 2, 3, 0xE8, 0x64, 0x6E, 0x6F, 0xEF]
        ++ List.replicate 122 0) := by
    decide +kernel
  exact (frame_roundTrip_iff (by decide) (fun _ hb => List.eq_of_mem_replicate hb) hrun
    (by decide)).2 (.inl rfl)

/-- The frame that is made of the same payload without a mask is not read back. -/
theorem unmasked_frame_garbled :
    webSocketEnPackage [0x68, 0x65, 0x6C, 0x6C, 0x6F] (List.replicate 133 0) 1029 false .WCT_BINDATA
        UInt8.ofNat = .ok (7, [0x82, 5, 0x68, 0x65, 0x6C, 0x6C, 0x6F] ++ List.replicate 126 0) ∧
      ¬ Delivers ([0x82, 5, 0x68, 0x65, 0x6C, 0x6C, 0x6F] ++ List.replicate 10 0) 7
        [0x68, 0x65, 0x6C, 0x6C, 0x6F] := by
  decide +kernel

end SmartPlat.WebServer
