import SmartPlat.WebServer.Received

set_option autoImplicit false

/-! # Whether the hash is sent back

The hash is measured with `strlen` before it is encoded, so that its first zero byte ends it, and the
room for the text is read from four bytes that belong to something else. -/

namespace SmartPlat.WebServer

open SmartPlat.Lib

variable {behind : UInt32} {webSocketKey : CharArray 511} {wsAccept other : List UInt8}

/-- The hash of a key. -/
def keyHash (webSocketKey : CharArray 511) : List UInt8 := Sha1.sha1 (webSocketKey.str.bytes ++ magic)

/-- The client is sent all of the hash. -/
def Accepts (behind : UInt32) (webSocketKey : CharArray 511) : Prop :=
  webSocketAuthentication behind webSocketKey = .ok (responseText (Base64.encode (keyHash webSocketKey)))

theorem responseText_inj : responseText wsAccept = responseText other ↔ wsAccept = other := by
  rw [responseText, responseText, List.append_left_inj, List.append_right_inj]

/-- No key is too long for `wsKeyAndMagic`. -/
theorem bytes_keyAndMagic (webSocketKey : CharArray 511) :
    (snprintf 1023 (.ofBuffer (webSocketKey.str.bytes ++ magic))).str.bytes
      = webSocketKey.str.bytes ++ magic := by
  have hmagic : 0 ∉ magic := by decide
  have hnul : 0 ∉ webSocketKey.str.bytes ++ magic := by
    simpa using ⟨webSocketKey.str.noNul, hmagic⟩
  have hlen : (webSocketKey.str.bytes ++ magic).length ≤ 1023 := by
    have hkey : webSocketKey.str.bytes.length ≤ 511 := webSocketKey.fits
    have hmagic : magic.length = 36 := by decide
    rw [List.length_append]
    omega
  rw [snprintf]
  dsimp only
  rw [CString.bytes_ofBuffer hnul, List.take_of_length_le hlen]

theorem length_hashText (text : List UInt8) : (CString.ofBuffer text).bytes.length ≤ text.length :=
  (List.takeWhile_sublist _).length_le

/-- An answer with a short value is sent as it is. -/
theorem ends_response {s : CString} (h : s.strlen ≤ 31) {R : List UInt8 → Prop} :
    Ends (do
      let response ← sprintf 1023 (.ofBuffer (responseText s.bytes))
      return response.str.bytes) R ↔ R (responseText s.bytes) := by
  have hnul : 0 ∉ responseText s.bytes := by
    have hhead : 0 ∉ responseText [] := by decide
    simp only [responseText, List.mem_append, not_or] at hhead ⊢
    exact ⟨⟨hhead.1.1, s.noNul⟩, hhead.2⟩
  have hlen : (CString.ofBuffer (responseText s.bytes)).strlen ≤ 1023 := by
    have hhead : (responseText []).length ≤ 200 := by decide
    rw [CString.strlen] at h ⊢
    rw [CString.bytes_ofBuffer hnul]
    simp only [responseText, List.length_append, List.length_nil] at hhead ⊢
    omega
  rw [ends_bind, sprintf, dif_pos hlen, ends_ok, ends_pure]
  dsimp only
  rw [CString.bytes_ofBuffer hnul]

/-- **What is sent back**: the hash up to its first zero byte, or nothing. -/
theorem webSocketAuthentication_ends (behind : UInt32) (webSocketKey : CharArray 511) :
    Ends (webSocketAuthentication behind webSocketKey) (· = responseText
      (if behind = 0 then [] else Base64.encode (CString.ofBuffer (keyHash webSocketKey)).bytes)) := by
  have hhash : (keyHash webSocketKey).length = 20 := Sha1.length_sha1 _
  have htext := length_hashText (keyHash webSocketKey)
  have hlen := Base64.length_encode (CString.ofBuffer (keyHash webSocketKey)).bytes
  have hcleared : (CharBuffer.zeros 32).str.strlen ≤ 31 := by
    rw [CString.strlen, CharBuffer.str_zeros]
    exact Nat.zero_le _
  have hbehind : behind = 0 ↔ behind.toNat = 0 := UInt32.toNat_inj.symm
  unfold webSocketAuthentication
  dsimp only
  rw [bytes_keyAndMagic, ← keyHash, ends_bind, CharBuffer.ends_memcpy]
  refine ⟨by omega, ?_⟩
  rw [CharBuffer.str_overwrite_cleared, ends_bind, ends_base64Encode]
  generalize (CString.ofBuffer (keyHash webSocketKey)).bytes = text at htext hlen ⊢
  split
  · next hnil =>
      rw [ends_response hcleared, CharBuffer.str_zeros, hnil]
      split <;> rfl
  · next hne =>
      have hpos := List.length_pos_iff.2 hne
      split
      · next hsmall =>
          rw [ends_response hcleared, CharBuffer.str_zeros, if_pos (hbehind.2 (by omega))]
      · next hlarge =>
          have hroom : (Base64.encode text ++ [0]).length ≤ 32 := by
            rw [List.length_append, List.length_singleton]
            omega
          refine ⟨hroom, ?_⟩
          have hbytes : ((CharBuffer.zeros 32).overwrite (Base64.encode text ++ [0]) hroom).str.bytes
              = Base64.encode text := CharBuffer.str_overwrite_nul (Base64.zero_notMem_encode text) hroom
          rw [ends_response (by rw [CString.strlen, hbytes]; omega), hbytes, if_neg]
          intro hnone
          rw [hbehind.1 hnone] at hlarge
          omega

theorem webSocketAuthentication_eq (h : behind ≠ 0) :
    webSocketAuthentication behind webSocketKey =
      .ok (responseText (Base64.encode (CString.ofBuffer (keyHash webSocketKey)).bytes)) := by
  obtain ⟨response, hrun, rfl⟩ := webSocketAuthentication_ends behind webSocketKey
  rw [hrun, if_neg h]

theorem encode_text_eq_iff {hash : List UInt8} :
    Base64.encode (CString.ofBuffer hash).bytes = Base64.encode hash ↔ 0 ∉ hash := by
  rw [Base64.encode_injective.eq_iff]
  constructor
  · intro h
    rw [← h]
    exact (CString.ofBuffer hash).noNul
  · exact CString.bytes_ofBuffer

/-- **When the client is sent the hash of its key.** For every key and whatever is behind the length: when
    no byte of the hash is zero, and the bytes behind the length are not. -/
theorem accepts_iff (behind : UInt32) (webSocketKey : CharArray 511) :
    Accepts behind webSocketKey ↔ 0 ∉ keyHash webSocketKey ∧ behind ≠ 0 := by
  obtain ⟨response, hrun, rfl⟩ := webSocketAuthentication_ends behind webSocketKey
  rw [Accepts, hrun, Except.ok.injEq, responseText_inj]
  split
  · next hnone =>
      refine iff_of_false (fun h => ?_) fun h => h.2 hnone
      have hlen := Base64.length_encode (keyHash webSocketKey)
      rw [← h, keyHash, Sha1.length_sha1] at hlen
      cases hlen
  · next hsome => rw [encode_text_eq_iff, and_iff_left hsome]

/-- The key of the example in the standard, whose hash has no zero byte. -/
example : Base64.encode (keyHash (snprintf 511 (.ofBuffer (ascii "dGhlIHNhbXBsZSBub25jZQ==")))) =
    ascii "s3pPLMBiTxaQ9kYGzzhZRbK+xOo=" := by
  decide +kernel

/-- The key of three and fifteen zero bytes: its hash has a zero at place 6, and only the six bytes before
    are sent. -/
theorem hash_with_zero_cut :
    webSocketAuthentication 1 (snprintf 511 (.ofBuffer (ascii "AwAAAAAAAAAAAAAAAAAAAA=="))) =
        .ok (responseText (ascii "gJOmNoot")) ∧
      ¬ Accepts 1 (snprintf 511 (.ofBuffer (ascii "AwAAAAAAAAAAAAAAAAAAAA=="))) := by
  have hsent : Base64.encode (CString.ofBuffer (keyHash (snprintf 511
      (.ofBuffer (ascii "AwAAAAAAAAAAAAAAAAAAAA=="))))).bytes = ascii "gJOmNoot" := by
    decide +kernel
  have hrun : webSocketAuthentication 1 (snprintf 511 (.ofBuffer (ascii "AwAAAAAAAAAAAAAAAAAAAA=="))) =
      .ok (responseText (ascii "gJOmNoot")) := by
    rw [webSocketAuthentication_eq (by decide), hsent]
  refine ⟨hrun, fun h => ?_⟩
  rw [Accepts, hrun, Except.ok.injEq, responseText_inj] at h
  exact absurd (congrArg List.length h) (by decide)

end SmartPlat.WebServer
