import SmartPlat.Lib.Blocks
import SmartPlat.WebServer.Proofs.FrameRoundTrip

set_option autoImplicit false

/-! # What `webSocket_enPackage` makes of a buffer

The buffer has just the capacity that is claimed for it. Behind the frame a NUL is written, which the
tests of the capacity do not count; and the length is or-ed into the second byte, which is only set
before when the frame is masked. -/

namespace SmartPlat.WebServer

open SmartPlat.Lib

variable {data package package' lenBytes : List UInt8} {n cap : ℕ} {code byte byte' : UInt8} {isMask : Bool}
  {type : WebsocketCommunicationType} {rand : ℕ → UInt8}

/-! ## The header -/

/-- The bytes in front of the key, or of the payload if there is none. -/
def headLength (dataLen : ℕ) : ℕ :=
  if dataLen < 126 then 2 else if dataLen < 65536 then 4 else if dataLen < 0xFFFFFFFF then 10 else 1

/-- What is or-ed to the second byte. -/
def lengthCode (dataLen : ℕ) : UInt8 :=
  if dataLen < 126 then UInt8.ofNat dataLen else if dataLen < 65536 then 0x7E else 0x7F

/-- The length bytes, where the capacity is not too small for them. -/
def lengthField (byte : UInt8) (dataLen : ℕ) : List UInt8 :=
  if dataLen < 126 then [byte ||| UInt8.ofNat dataLen]
  else if dataLen < 65536 then
    [byte ||| 0x7E, UInt8.ofNat (dataLen / 256), UInt8.ofNat dataLen]
  else if dataLen < 0xFFFFFFFF then
    [byte ||| 0x7F, 0, 0, 0, 0, UInt8.ofNat (dataLen / 16777216),
      UInt8.ofNat (dataLen / 65536), UInt8.ofNat (dataLen / 256), UInt8.ofNat dataLen]
  else []

theorem lengthBytes_eq (byte : UInt8) (n cap : ℕ) :
    lengthBytes byte n cap =
      if 2 < headLength n ∧ cap < headLength n then none else some (lengthField byte n) := by
  unfold lengthBytes lengthField headLength
  split
  · simp
  split
  · split <;> simp [*]
  split
  · split <;> simp [*]
  · simp

theorem length_lengthField (byte : UInt8) (n : ℕ) :
    (lengthField byte n).length + 1 = headLength n := by
  unfold lengthField headLength
  split
  · rfl
  split
  · rfl
  split <;> rfl

/-- The old second byte shows in the first byte of the length only. -/
theorem lengthField_eq_iff (h : n < 0xFFFFFFFF) :
    lengthField byte n = lengthField byte' n ↔ byte ||| lengthCode n = byte' ||| lengthCode n := by
  unfold lengthField lengthCode
  split
  · simp
  split
  · simp
  simp

/-! ## Runs -/

/-- Header, key and payload. -/
def frameLength (dataLen : ℕ) (isMask : Bool) : ℕ :=
  headLength dataLen + (if isMask then 4 else 0) + dataLen

/-- The tests of the function: the buffer is too small for any frame, there is no such type, it is too
    small for the header, or for the frame, whose length is an `unsigned int`. -/
def Refuses (dataLen cap : ℕ) (isMask : Bool) (type : WebsocketCommunicationType) : Prop :=
  cap < 2 ∨ type.code = none ∨ 2 < headLength dataLen ∧ cap < headLength dataLen ∨
    cap < frameLength dataLen isMask % 2 ^ 32

instance (dataLen cap : ℕ) (isMask : Bool) (type : WebsocketCommunicationType) :
    Decidable (Refuses dataLen cap isMask type) :=
  inferInstanceAs (Decidable (cap < 2 ∨ type.code = none ∨
    2 < headLength dataLen ∧ cap < headLength dataLen ∨ cap < frameLength dataLen isMask % 2 ^ 32))

/-- The second byte as the length finds it. -/
def secondByte (package : List UInt8) (isMask : Bool) : UInt8 :=
  if isMask then 0x80 else byteAt package 1

/-- The frame that is written. -/
def frameBytes (code : UInt8) (data package : List UInt8) (isMask : Bool) (rand : ℕ → UInt8) : List UInt8 :=
  code :: (lengthField (secondByte package isMask) data.length ++ frameBody data isMask rand)

theorem length_frameBody : (frameBody data isMask rand).length = (if isMask then 4 else 0) + data.length := by
  unfold frameBody
  split
  · rw [List.length_append, length_getRandomString, length_cycleXor]
  · simp

theorem length_frameBytes :
    (frameBytes code data package isMask rand).length = frameLength data.length isMask := by
  have hhead := length_lengthField (secondByte package isMask) data.length
  simp only [frameBytes, List.length_cons, List.length_append, length_frameBody, frameLength]
  omega

/-- A refused call returns -1, and what it has written fits. -/
theorem enPackage_of_refuses (rand : ℕ → UInt8) (h : Refuses data.length package.length isMask type) :
    ∃ package', webSocketEnPackage data package package.length isMask type rand = .ok (-1, package') := by
  have hfill {bytes : List UInt8} (hle : bytes.length ≤ package.length) :
      ∃ package', (fillPackage package bytes).map (fun p => ((-1 : ℤ), p)) = .ok (-1, package') := by
    rw [fillPackage, if_pos hle]
    exact ⟨_, rfl⟩
  have hhead := length_lengthField (if isMask then 0x80 else byteAt package 1) data.length
  unfold webSocketEnPackage
  split
  · exact ⟨_, rfl⟩
  next htwo =>
  split
  · exact ⟨_, rfl⟩
  next code hcode =>
  simp only [lengthBytes_eq]
  by_cases hroom : 2 < headLength data.length ∧ package.length < headLength data.length
  · rw [if_pos hroom]
    exact hfill (by split <;> simp <;> omega)
  rw [if_neg hroom]
  have hlong : package.length < frameLength data.length isMask % 2 ^ 32 := by
    rcases h with h | h | h | h
    · exact absurd h htwo
    · rw [hcode] at h
      cases h
    · exact absurd h hroom
    · exact h
  have hfits : (code :: lengthField (if isMask then 0x80 else byteAt package 1) data.length).length
      ≤ package.length := by
    rw [List.length_cons, hhead]
    omega
  cases isMask with
  | true =>
      simp only [frameLength, if_true] at hlong hhead hfits ⊢
      rw [List.length_cons, hhead, Nat.add_right_comm, if_pos hlong]
      exact hfill hfits
  | false =>
      simp only [frameLength, Bool.false_eq_true, if_false, Nat.add_zero] at hlong hhead hfits ⊢
      rw [List.length_cons, hhead, if_pos hlong]
      exact hfill hfits

/-- Any other call writes the frame and the NUL behind it. -/
theorem enPackage_of_not_refuses (rand : ℕ → UInt8) (h : ¬ Refuses data.length package.length isMask type) :
    ∃ code, type.code = some code ∧
      webSocketEnPackage data package package.length isMask type rand =
        (fillPackage package (frameBytes code data package isMask rand ++ [0])).map fun p =>
          (toInt32 (frameLength data.length isMask), p) := by
  simp only [Refuses, not_or, not_lt] at h
  obtain ⟨htwo, hcode, hroom, hlong⟩ := h
  obtain ⟨code, hcode⟩ := Option.ne_none_iff_exists'.1 hcode
  refine ⟨code, hcode, ?_⟩
  have hhead := length_lengthField (secondByte package isMask) data.length
  unfold webSocketEnPackage
  rw [if_neg (by omega)]
  simp only [hcode, lengthBytes_eq]
  rw [if_neg hroom]
  cases isMask with
  | true =>
      simp only [frameLength, secondByte, if_true] at hlong hhead ⊢
      rw [if_neg (by rw [List.length_cons, hhead, Nat.add_right_comm]; omega), mapIdx_maskByte, List.length_cons,
        hhead]
      simp [frameBytes, frameBody, secondByte]
  | false =>
      simp only [frameLength, secondByte, Bool.false_eq_true, if_false, Nat.add_zero] at hlong hhead ⊢
      rw [if_neg (by rw [List.length_cons, hhead]; omega), List.length_cons, hhead]
      simp [frameBytes, frameBody, secondByte]

/-! ## When a frame is what it should be -/

/-- In a buffer of its capacity a call ends, and it fails or returns the length of header, key and
    payload. -/
def EncodesInto (data package : List UInt8) (isMask : Bool) (type : WebsocketCommunicationType)
    (rand : ℕ → UInt8) : Prop :=
  Ends (webSocketEnPackage data package package.length isMask type rand) fun r =>
    r.1 = -1 ∨ r.1 = frameLength data.length isMask

/-- Two buffers get the same frame if neither call fails. -/
def SameFrame (data package other : List UInt8) (isMask : Bool) (type : WebsocketCommunicationType)
    (rand : ℕ → UInt8) : Prop :=
  ∀ r r', webSocketEnPackage data package package.length isMask type rand = .ok r →
    webSocketEnPackage data other other.length isMask type rand = .ok r' →
      r.1 ≠ -1 → r'.1 ≠ -1 → r.2.take r.1.toNat = r'.2.take r'.1.toNat

/-- There is room for the frame and one more byte, and the length is an `int`. -/
def Fits (dataLen cap : ℕ) (isMask : Bool) (type : WebsocketCommunicationType) : Prop :=
  Refuses dataLen cap isMask type ∨ frameLength dataLen isMask < cap ∧ frameLength dataLen isMask < 2 ^ 31

instance (dataLen cap : ℕ) (isMask : Bool) (type : WebsocketCommunicationType) :
    Decidable (Fits dataLen cap isMask type) :=
  inferInstanceAs (Decidable (Refuses dataLen cap isMask type ∨
    frameLength dataLen isMask < cap ∧ frameLength dataLen isMask < 2 ^ 31))

variable {other : List UInt8}

theorem encodesInto_iff (hcap : package.length < 2 ^ 32) :
    EncodesInto data package isMask type rand ↔ Fits data.length package.length isMask type := by
  by_cases hrefuse : Refuses data.length package.length isMask type
  · obtain ⟨package', hrun⟩ := enPackage_of_refuses rand hrefuse
    exact iff_of_true ⟨_, hrun, .inl rfl⟩ (.inl hrefuse)
  · obtain ⟨code, -, hrun⟩ := enPackage_of_not_refuses rand hrefuse
    have hlen : (frameBytes code data package isMask rand ++ [0]).length
        = frameLength data.length isMask + 1 := by
      rw [List.length_append, length_frameBytes]
      rfl
    rw [EncodesInto, hrun, Fits, or_iff_right hrefuse, fillPackage, hlen]
    generalize frameLength data.length isMask = total
    by_cases hroom : total + 1 ≤ package.length
    · rw [if_pos hroom, ends_exceptMap, ends_ok]
      dsimp only
      rw [toInt32_cond (by omega)]
      split <;> omega
    · rw [if_neg hroom, ends_exceptMap]
      exact iff_of_false not_ends_error fun h => hroom h.1

/-- The frame of a call that does not fail. -/
theorem frame_of_run (rand : ℕ → UInt8) (hfits : Fits data.length package.length isMask type)
    (hrefuse : ¬ Refuses data.length package.length isMask type) :
    ∃ code r, type.code = some code ∧
      webSocketEnPackage data package package.length isMask type rand = .ok r ∧ r.1 ≠ -1 ∧
        r.2.take r.1.toNat = frameBytes code data package isMask rand := by
  obtain ⟨code, hcode, hrun⟩ := enPackage_of_not_refuses rand hrefuse
  obtain ⟨hroom, hint⟩ := hfits.resolve_left hrefuse
  have hfill : (frameBytes code data package isMask rand ++ [0]).length ≤ package.length := by
    rw [List.length_append, length_frameBytes]
    exact hroom
  rw [fillPackage, if_pos hfill, Except.map] at hrun
  have hret := toInt32_of_lt hint
  have hne : toInt32 (frameLength data.length isMask) ≠ -1 := by
    rw [hret]
    omega
  refine ⟨code, (toInt32 (frameLength data.length isMask), _), hcode, hrun, ?_⟩
  dsimp only
  refine ⟨hne, ?_⟩
  rw [hret, Int.toNat_natCast, List.append_assoc, ← length_frameBytes, List.take_left]

theorem sameFrame_of_refuses (h : Refuses data.length package.length isMask type ∨
    Refuses data.length other.length isMask type) : SameFrame data package other isMask type rand := by
  intro r r' hr hr' hne hne'
  rcases h with h | h
  · obtain ⟨p, hrun⟩ := enPackage_of_refuses rand h
    cases hrun.symm.trans hr
    exact absurd rfl hne
  · obtain ⟨p, hrun⟩ := enPackage_of_refuses rand h
    cases hrun.symm.trans hr'
    exact absurd rfl hne'

theorem sameFrame_iff (hcap : package.length < 2 ^ 32)
    (hfits : Fits data.length package.length isMask type) (hfits' : Fits data.length other.length isMask type)
    (hrefuse : ¬ Refuses data.length package.length isMask type)
    (hrefuse' : ¬ Refuses data.length other.length isMask type) :
    SameFrame data package other isMask type rand ↔ isMask = true ∨
      byteAt package 1 ||| lengthCode data.length = byteAt other 1 ||| lengthCode data.length := by
  obtain ⟨code, r, hcode, hr, hne, hframe⟩ := frame_of_run rand hfits hrefuse
  obtain ⟨code', r', hcode', hr', hne', hframe'⟩ := frame_of_run rand hfits' hrefuse'
  cases hcode.symm.trans hcode'
  have hlong : data.length < 0xFFFFFFFF := by
    have hroom := (hfits.resolve_left hrefuse).1
    simp only [frameLength] at hroom
    omega
  have hsame : SameFrame data package other isMask type rand ↔
      frameBytes code data package isMask rand = frameBytes code data other isMask rand := by
    constructor
    · intro h
      rw [← hframe, ← hframe', h r r' hr hr' hne hne']
    · intro h s s' hs hs' _ _
      cases hr.symm.trans hs
      cases hr'.symm.trans hs'
      rw [hframe, hframe', h]
  rw [hsame, frameBytes, frameBytes, List.cons_inj_right, List.append_cancel_right_eq,
    lengthField_eq_iff hlong]
  cases isMask <;> simp [secondByte]

/-- **When the encoder is independent of its buffer, honest about the length and within the capacity.** For
    every payload, type, mask and any two buffers: when each call is refused or has room for one byte
    more than the frame, and the frame is masked, or the second bytes of the buffers differ in no bit
    that the length leaves as it is. -/
theorem encoder_iff (hcap : package.length < 2 ^ 32) (hcap' : other.length < 2 ^ 32) :
    (EncodesInto data package isMask type rand ∧ EncodesInto data other isMask type rand ∧
        SameFrame data package other isMask type rand) ↔
      Fits data.length package.length isMask type ∧ Fits data.length other.length isMask type ∧
        (Refuses data.length package.length isMask type ∨ Refuses data.length other.length isMask type ∨
          isMask = true ∨
          byteAt package 1 ||| lengthCode data.length = byteAt other 1 ||| lengthCode data.length) := by
  rw [encodesInto_iff hcap, encodesInto_iff hcap']
  refine and_congr_right fun hfits => and_congr_right fun hfits' => ?_
  by_cases hrefuse : Refuses data.length package.length isMask type
  · exact iff_of_true (sameFrame_of_refuses (.inl hrefuse)) (.inl hrefuse)
  by_cases hrefuse' : Refuses data.length other.length isMask type
  · exact iff_of_true (sameFrame_of_refuses (.inr hrefuse')) (.inr (.inl hrefuse'))
  rw [or_iff_right hrefuse, or_iff_right hrefuse',
    sameFrame_iff hcap hfits hfits' hrefuse hrefuse']

/-- A text of three bytes, in two cleared buffers. -/
theorem encoder_cleared : EncodesInto [1, 2, 3] [0, 0, 0, 0, 0, 0] false .WCT_TXTDATA UInt8.ofNat ∧
    EncodesInto [1, 2, 3] [9, 0, 0, 0, 0, 0, 7, 7] false .WCT_TXTDATA UInt8.ofNat ∧
      SameFrame [1, 2, 3] [0, 0, 0, 0, 0, 0] [9, 0, 0, 0, 0, 0, 7, 7] false .WCT_TXTDATA UInt8.ofNat :=
  (encoder_iff (by decide) (by decide)).2 ⟨by decide, by decide, .inr (.inr (.inr (by decide)))⟩

/-- Of a buffer that was used before, the second byte gets into the frame. And a buffer of just the
    length of the frame is written past its end. -/
theorem old_byte_in_frame :
    ¬ SameFrame [1, 2, 3] [0, 0, 0, 0, 0, 0] [0, 0x70, 0, 0, 0, 0] false .WCT_TXTDATA UInt8.ofNat ∧
      webSocketEnPackage [1, 2, 3] [0, 0, 0, 0, 0] 5 false .WCT_TXTDATA UInt8.ofNat = .error .badAccess := by
  refine ⟨fun h => ?_, by decide⟩
  have hframe := h (5, [0x81, 3, 1, 2, 3, 0]) (5, [0x81, 0x73, 1, 2, 3, 0]) (by decide) (by decide)
    (by decide) (by decide)
  exact absurd hframe (by decide)

end SmartPlat.WebServer
