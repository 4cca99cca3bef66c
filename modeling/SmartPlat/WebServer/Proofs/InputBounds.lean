import SmartPlat.Lib.Blocks
import SmartPlat.WebServer.Received
import SmartPlat.WebServer.Proofs.FrameRoundTrip

set_option autoImplicit false

/-! # Whether `WebRequst` keeps inside a message

A message is searched for a text before anything else, and has no terminator of its own. A frame is taken
to be as long as it says: neither the header nor the payload that it announces is compared with what has
been received. -/

namespace SmartPlat.WebServer.Received

open SmartPlat.Lib

variable {recvmsg : List UInt8} {n : ℕ}

/-! ## What a header announces -/

/-- Where the key is: behind the first two bytes and a longer length. -/
def keyAt (recvmsg : List UInt8) : ℕ :=
  if byteAt recvmsg 1 &&& 0x7F = 126 then 4 else if byteAt recvmsg 1 &&& 0x7F = 127 then 10 else 2

/-- `payload_length` -/
def announced (recvmsg : List UInt8) : ℕ :=
  if byteAt recvmsg 1 &&& 0x7F = 126 then 256 * (byteAt recvmsg 2).toNat + (byteAt recvmsg 3).toNat
  else if byteAt recvmsg 1 &&& 0x7F = 127 then
    16777216 * (byteAt recvmsg 6).toNat + 65536 * (byteAt recvmsg 7).toNat
      + 256 * (byteAt recvmsg 8).toNat + (byteAt recvmsg 9).toNat
  else (byteAt recvmsg 1 &&& 0x7F).toNat

/-- How many bytes are unmasked: none if the length is negative as an `int`. -/
def unmasked (recvmsg : List UInt8) : ℕ := if announced recvmsg < 2 ^ 31 then announced recvmsg else 0

/-- The text that is given to `cJSON_Parse`. -/
def payloadText (recvmsg : List UInt8) : List UInt8 :=
  let key := recvmsg.drop (keyAt recvmsg)
  cycleXor 4 (byteAt key) ((key.drop 4).take (unmasked recvmsg)) ++ (key.drop 4).drop (unmasked recvmsg)

theorem announced_lt (recvmsg : List UInt8) : announced recvmsg < 2 ^ 32 := by
  have hlt (i : ℕ) := (byteAt recvmsg i).toNat_lt
  have hmask := (byteAt recvmsg 1 &&& 0x7F).toNat_lt
  have h2 := hlt 2
  have h3 := hlt 3
  have h6 := hlt 6
  have h7 := hlt 7
  have h8 := hlt 8
  have h9 := hlt 9
  unfold announced
  split
  · omega
  split <;> omega

theorem toInt32_announced : (toInt32 (announced recvmsg)).toNat = unmasked recvmsg := by
  rw [toInt32_cond (announced_lt recvmsg), unmasked]
  have hlt := announced_lt recvmsg
  split <;> omega

theorem toNat_eq_iff {b : UInt8} (h : n < 256) : b.toNat = n ↔ b = UInt8.ofNat n := by
  constructor
  · rintro rfl
    exact UInt8.ofNat_toNat.symm
  · rintro rfl
    rw [UInt8.toNat_ofNat']
    omega

/-! ## The header and the mask -/

/-- The eight bytes of a long length, turned round. -/
theorem reverseLength_eq (a₀ a₁ a₂ a₃ a₄ a₅ a₆ a₇ a₈ a₉ : UInt8) (rest : List UInt8) :
    reverseLength (a₀ :: a₁ :: a₂ :: a₃ :: a₄ :: a₅ :: a₆ :: a₇ :: a₈ :: a₉ :: rest)
      = a₀ :: a₁ :: a₉ :: a₈ :: a₇ :: a₆ :: a₅ :: a₄ :: a₃ :: a₂ :: rest := rfl

theorem exists_ten (h : 10 ≤ recvmsg.length) :
    ∃ a₀ a₁ a₂ a₃ a₄ a₅ a₆ a₇ a₈ a₉ rest,
      recvmsg = a₀ :: a₁ :: a₂ :: a₃ :: a₄ :: a₅ :: a₆ :: a₇ :: a₈ :: a₉ :: rest := by
  match recvmsg, h with
  | a₀ :: a₁ :: a₂ :: a₃ :: a₄ :: a₅ :: a₆ :: a₇ :: a₈ :: a₉ :: rest, _ =>
      exact ⟨a₀, a₁, a₂, a₃, a₄, a₅, a₆, a₇, a₈, a₉, rest, rfl⟩

/-- What is read for the key: it must be there. -/
theorem readMaskingKey_of_le {readCount : ℕ} (h : readCount + 4 ≤ recvmsg.length) (head : FramHead) :
    readMaskingKey recvmsg readCount head =
      .ok (0, { head with
        maskingKey := (recvmsg.drop readCount).take 4
        headLen := readCount + 4 }, recvmsg) := by
  rw [readMaskingKey, if_neg (by omega)]

theorem readMaskingKey_of_lt {readCount : ℕ} (h : recvmsg.length < readCount + 4) (head : FramHead) :
    readMaskingKey recvmsg readCount head = .error .badAccess := by
  rw [readMaskingKey, if_pos h]

/-- **The header is read if all of it is there**, with the length that it announces. -/
theorem parsingFrameHeader_cases (hpos : 0 < recvmsg.length) :
    (recvmsg.length < keyAt recvmsg + 4 ∧
        parsingFrameHeader recvmsg recvmsg.length .zero = .error .badAccess) ∨
      keyAt recvmsg + 4 ≤ recvmsg.length ∧ ∃ head msg,
        parsingFrameHeader recvmsg recvmsg.length .zero = .ok (0, head, msg) ∧
        head.headLen = keyAt recvmsg + 4 ∧ head.payloadLength = announced recvmsg ∧
        head.maskingKey = (recvmsg.drop (keyAt recvmsg)).take 4 ∧ msg.length = recvmsg.length ∧
        msg.drop (keyAt recvmsg) = recvmsg.drop (keyAt recvmsg) := by
  have hpayload : (readFirstBytes recvmsg .zero).payloadLength = (byteAt recvmsg 1 &&& 0x7F).toNat := rfl
  have h126 : (byteAt recvmsg 1 &&& 0x7F).toNat = 126 ↔ byteAt recvmsg 1 &&& 0x7F = 126 :=
    toNat_eq_iff (by decide)
  have h127 : (byteAt recvmsg 1 &&& 0x7F).toNat = 127 ↔ byteAt recvmsg 1 &&& 0x7F = 127 :=
    toNat_eq_iff (by decide)
  unfold parsingFrameHeader
  rw [if_neg (by omega)]
  simp only [hpayload, h126, h127]
  unfold keyAt announced
  by_cases hone : recvmsg.length < 2
  · rw [if_pos hone]
    exact .inl ⟨by split <;> (try split) <;> omega, rfl⟩
  rw [if_neg hone]
  split
  · by_cases hkey : recvmsg.length < 4 + 4
    · refine .inl ⟨hkey, ?_⟩
      split
      · rfl
      · exact readMaskingKey_of_lt hkey _
    · rw [if_neg (by omega), readMaskingKey_of_le (by omega)]
      exact .inr ⟨by omega, _, _, rfl, rfl, rfl, rfl, rfl, rfl⟩
  split
  · by_cases hten : recvmsg.length < 10
    · rw [if_pos hten]
      exact .inl ⟨by omega, rfl⟩
    rw [if_neg hten]
    obtain ⟨a₀, a₁, a₂, a₃, a₄, a₅, a₆, a₇, a₈, a₉, rest, rfl⟩ := exists_ten (Nat.not_lt.1 hten)
    rw [reverseLength_eq]
    by_cases hkey : rest.length < 4
    · refine .inl ⟨by simp only [List.length_cons]; omega, readMaskingKey_of_lt ?_ _⟩
      simp only [List.length_cons]
      omega
    · refine .inr ⟨by simp only [List.length_cons]; omega, _, _, readMaskingKey_of_le ?_ _, rfl, ?_, rfl, rfl,
        rfl⟩
      · simp only [List.length_cons]
        omega
      · -- the low half of the length is the one that counts
        simp [uint32At, byteAt]
        omega
  · by_cases hkey : recvmsg.length < 2 + 4
    · exact .inl ⟨hkey, readMaskingKey_of_lt hkey _⟩
    · rw [readMaskingKey_of_le (by omega)]
      exact .inr ⟨by omega, _, _, rfl, rfl, rfl, rfl, rfl, rfl⟩

theorem webumask_cases (data : List UInt8) (start : ℕ) (len : ℤ) (mask : List UInt8) :
    (data.length < start + len.toNat ∧ webumask data start len mask = .error .badAccess) ∨
      start + len.toNat ≤ data.length ∧ ∃ msg, webumask data start len mask = .ok msg ∧
        msg.drop start = cycleXor 4 (byteAt mask) ((data.drop start).take len.toNat)
          ++ (data.drop start).drop len.toNat := by
  unfold webumask
  by_cases hroom : data.length < start + len.toNat
  · rw [if_pos hroom]
    exact .inl ⟨hroom, rfl⟩
  rw [if_neg hroom]
  refine .inr ⟨Nat.not_lt.1 hroom, _, rfl, ?_⟩
  have hfront : (data.take start).length = start := by
    rw [List.length_take]
    omega
  rw [List.append_assoc, List.drop_append_of_le_length hfront.ge, List.drop_of_length_le hfront.le,
    List.nil_append, List.drop_drop, cycleXor]

theorem unmaskFrame_of_header {ret : ℤ} {head : FramHead} {msg : List UInt8}
    (h : parsingFrameHeader recvmsg recvmsg.length .zero = .ok (ret, head, msg)) :
    unmaskFrame recvmsg recvmsg.length =
      (webumask msg head.headLen (toInt32 head.payloadLength) head.maskingKey).map fun data =>
        (head, data) := by
  rw [unmaskFrame, h]
  exact ok_bind _

/-- **The payload is unmasked if all of it is there**, with as many bytes as the header announces. -/
theorem unmask_cases (hpos : 0 < recvmsg.length) :
    (recvmsg.length < keyAt recvmsg + 4 + unmasked recvmsg ∧ unmask recvmsg = .error .message) ∨
      keyAt recvmsg + 4 + unmasked recvmsg ≤ recvmsg.length ∧ ∃ r,
        unmask recvmsg = .ok r ∧ r.2.drop r.1.headLen = payloadText recvmsg := by
  unfold unmask
  rcases parsingFrameHeader_cases hpos with ⟨hshort, hrun⟩ | ⟨hle, head, msg, hrun, hlen, hpay, hkey, hmsg, hdrop⟩
  · rw [unmaskFrame, hrun]
    exact .inl ⟨by omega, rfl⟩
  have hcount : (toInt32 head.payloadLength).toNat = unmasked recvmsg := by rw [hpay, toInt32_announced]
  have hbehind : msg.drop head.headLen = (recvmsg.drop (keyAt recvmsg)).drop 4 := by
    rw [hlen, ← List.drop_drop, hdrop]
  have hmask := webumask_cases msg head.headLen (toInt32 head.payloadLength) head.maskingKey
  rw [hcount, hbehind, hmsg, hlen] at hmask
  rw [unmaskFrame_of_header hrun, hlen]
  rcases hmask with ⟨hshort, hmask⟩ | ⟨hroom, data, hmask, hdata⟩
  · rw [hmask]
    exact .inl ⟨hshort, rfl⟩
  · rw [hmask]
    refine .inr ⟨hroom, (head, data), rfl, ?_⟩
    rw [hlen, hdata, hkey, payloadText]
    simp only [cycleXor, byteAt_take_mod]

/-! ## Inside a message nothing changes -/

theorem getHttpWebSocketKey_refines {key : List UInt8} (h : getHttpWebSocketKey recvmsg = .ok key) :
    WebServer.getHttpWebSocketKey recvmsg = .ok (.ofBuffer key) := by
  unfold getHttpWebSocketKey strOf at h
  split at h
  · rw [ok_bind] at h
    split at h
    · next hfind =>
        cases h
        rw [WebServer.getHttpWebSocketKey, getNamedValue, hfind]
        rfl
    · next pHead hfind =>
        rw [WebServer.getHttpWebSocketKey, getNamedValue, hfind]
        dsimp only at h
        split at h
        · cases h
        · next hroom =>
            cases h
            have hvalue : getValueInto 512 (pHead.drop 18)
                = .ok (.ofBuffer (usrGetvalueBtweenpoint (pHead.drop 18))) := if_pos (Nat.not_lt.1 hroom)
            simp only [hvalue, show (ascii "Sec-WebSocket-Key").length + 1 = 18 from rfl]
            rfl
  · cases h

/-- The key that is found has no terminator in it. -/
theorem zero_notMem_key {key : List UInt8} (h : getHttpWebSocketKey recvmsg = .ok key) : 0 ∉ key := by
  unfold getHttpWebSocketKey strOf at h
  split at h
  · rw [ok_bind] at h
    split at h
    · cases h
      simp
    · next pHead hfind =>
        obtain ⟨k, -, -, rfl⟩ := strstr_eq_some_iff.1 hfind
        dsimp only at h
        split at h
        · cases h
        · cases h
          intro hmem
          have hdrop := (List.dropWhile_sublist _).subset ((List.takeWhile_sublist _).subset hmem)
          exact (CString.ofBuffer recvmsg).noNul (List.mem_of_mem_drop (List.mem_of_mem_drop hdrop))
  · cases h

/-- **A message that is not left is treated as one in a buffer that goes on.** -/
theorem webRequst_refines {parse : List UInt8 → Option CJson} {recvSocket : ℤ} {r : Option LinkInfo}
    (h : webRequst (fun text => .ok (parse (CString.ofBuffer text).bytes)) recvSocket recvmsg = .ok r)
    (s : InnerWebServerHandle) :
    WebServer.webRequst parse recvSocket recvmsg recvmsg.length s = .ok (r, s) := by
  obtain ⟨key, hkey, hrest⟩ := bind_eq_ok_iff.1 h
  have hstrlen : (CString.ofBuffer key).strlen = key.length :=
    congrArg List.length (CString.bytes_ofBuffer (zero_notMem_key hkey))
  rw [WebServer.webRequst, readMessage, getHttpWebSocketKey_refines hkey, ok_bind, hstrlen]
  split at hrest
  · next hlen =>
      rw [if_pos hlen]
      cases hrest
      rfl
  · next hlen =>
      rw [if_neg hlen]
      obtain ⟨u, hu, hparse⟩ := bind_eq_ok_iff.1 hrest
      unfold unmask at hu
      split at hu
      · cases hu
      · next v hv =>
          cases hu
          cases hparse
          rw [hv]
          rfl

/-! ## The whole of it -/

/-- No byte behind a message is read or written. -/
def KeepsInside (parse : List UInt8 → Except Outside (Option CJson)) (recvSocket : ℤ)
    (recvmsg : List UInt8) : Prop :=
  webRequst parse recvSocket recvmsg ≠ .error .message

/-- The text of a message has the name of the key, and a value behind it. -/
def HasKey (recvmsg : List UInt8) : Prop :=
  ∃ pHead, strstr (ascii "Sec-WebSocket-Key") (CString.ofBuffer recvmsg).bytes = some pHead ∧
    usrGetvalueBtweenpoint (pHead.drop 18) ≠ []

theorem webRequst_of_hasKey {parse : List UInt8 → Except Outside (Option CJson)} {recvSocket : ℤ}
    (h0 : 0 ∈ recvmsg) (h : HasKey recvmsg) : KeepsInside parse recvSocket recvmsg := by
  obtain ⟨pHead, hfind, hvalue⟩ := h
  rw [KeepsInside, webRequst, getHttpWebSocketKey, strOf, if_pos h0]
  simp only [Except.bind, hfind]
  by_cases hlong : 512 < (usrGetvalueBtweenpoint (pHead.drop 18)).length
  · simp [hlong]
  · simp [hlong, hvalue]

theorem webRequst_of_not_hasKey {parse : List UInt8 → Except Outside (Option CJson)} {recvSocket : ℤ}
    (h0 : 0 ∈ recvmsg) (h : ¬ HasKey recvmsg) :
    KeepsInside parse recvSocket recvmsg ↔
      keyAt recvmsg + 4 + unmasked recvmsg ≤ recvmsg.length ∧
        parse (payloadText recvmsg) ≠ .error .message := by
  have hkey : getHttpWebSocketKey recvmsg = .ok [] := by
    rw [getHttpWebSocketKey, strOf, if_pos h0]
    simp only [Except.bind]
    split
    · rfl
    · next pHead hfind =>
        have hvalue : usrGetvalueBtweenpoint (pHead.drop 18) = [] :=
          Classical.not_not.1 fun hne => h ⟨pHead, hfind, hne⟩
        rw [hvalue, if_neg (by simp)]
  rw [KeepsInside, webRequst, hkey]
  simp only [Except.bind, List.length_nil, ne_eq, not_true_eq_false, if_false]
  rcases unmask_cases (List.length_pos_of_mem h0) with ⟨hshort, hrun⟩ | ⟨hle, r, hrun, hpayload⟩
  · rw [hrun]
    exact iff_of_false (fun hne => hne rfl) fun hand => by omega
  · rw [hrun, and_iff_right hle]
    simp only [hpayload]
    cases parse (payloadText recvmsg) <;> simp [Except.map]

/-- **When a message is not left.** Of every length and whatever its header announces: there is a
    terminator in it and either it is a handshake, or the header and all that it announces have been
    received and the parser of the payload stops inside it. -/
theorem keepsInside_iff (parse : List UInt8 → Except Outside (Option CJson)) (recvSocket : ℤ)
    (recvmsg : List UInt8) :
    KeepsInside parse recvSocket recvmsg ↔ 0 ∈ recvmsg ∧ (HasKey recvmsg ∨
      keyAt recvmsg + 4 + unmasked recvmsg ≤ recvmsg.length ∧
        parse (payloadText recvmsg) ≠ .error .message) := by
  by_cases h0 : 0 ∈ recvmsg
  · rw [and_iff_right h0]
    by_cases hkey : HasKey recvmsg
    · exact iff_of_true (webRequst_of_hasKey h0 hkey) (.inl hkey)
    · rw [or_iff_right hkey, webRequst_of_not_hasKey h0 hkey]
  · refine iff_of_false (fun h => h ?_) fun h => h0 h.1
    rw [webRequst, getHttpWebSocketKey, strOf, if_neg h0]
    rfl

/-- A frame of six bytes that announces five more. -/
theorem announced_not_received :
    webRequst (fun _ => .ok none) 3 [0x81, 0x85, 0, 0, 0, 0] = .error .message ∧
      ¬ KeepsInside (fun _ => .ok none) 3 [0x81, 0x85, 0, 0, 0, 0] := by
  have hrun : webRequst (fun _ => .ok none) 3 [0x81, 0x85, 0, 0, 0, 0] = .error .message := by decide
  exact ⟨hrun, fun h => h hrun⟩

end SmartPlat.WebServer.Received
