import SmartPlat.HttpAPI.RequestBuffers

set_option autoImplicit false

/-! # What `GetHttpRequstHead` keeps to

All fields are copied by one function without a capacity, between two points of the text. The points are
in order and inside the text, but for the method, which is looked for in five bytes of a text that may
be shorter. The point behind a name is one byte too far when the value is not behind a blank. -/

namespace SmartPlat.HttpAPI.Buffers

open SmartPlat.Lib

variable {size n : ℕ} {b : CharBuffer size} {data text : List UInt8} {msg : CString}

/-! ## The copy -/

/-- Bytes that have a gap. -/
def HasGap (text : List UInt8) : Prop := ∃ c ∈ text, isGap c = true

instance (text : List UInt8) : Decidable (HasGap text) :=
  inferInstanceAs (Decidable (∃ c ∈ text, isGap c = true))

@[simp]
theorem hasGap_nil : ¬ HasGap [] := by simp [HasGap]

@[simp]
theorem hasGap_cons {c : UInt8} : HasGap (c :: text) ↔ isGap c = true ∨ HasGap text := by
  simp [HasGap]

/-- The next byte behind what has been copied. -/
theorem put_overwrite {c : UInt8} (h : data.length ≤ size) :
    put (b.overwrite data h) data.length c = b.memcpy (data ++ [c]) := by
  have hlen := b.length_eq
  rw [put, CharBuffer.memcpy]
  by_cases hroom : data.length < size
  · have hfits : (data ++ [c]).length ≤ size := by
      rw [List.length_append]
      exact hroom
    rw [if_pos hroom, dif_pos hfits]
    have hset : (data ++ b.bytes.drop data.length).set data.length c
        = data ++ [c] ++ b.bytes.drop (data ++ [c]).length := by
      rw [List.set_append_right _ _ le_rfl, Nat.sub_self, List.append_assoc, List.length_append,
        List.drop_eq_getElem_cons (by omega)]
      rfl
    simp only [CharBuffer.overwrite, hset]
  · rw [if_neg hroom, dif_neg]
    rw [List.length_append]
    exact hroom

/-- Copying the value behind what has been copied: it reads up to a gap or all `n` bytes. -/
theorem ends_copyValue {R : CharBuffer size → Prop} :
    (Ends (b.memcpy data) fun out => Ends (copyValue data.length n text out) R) ↔
      (n ≤ text.length ∨ HasGap text) ∧
        Ends (b.memcpy (data ++ (text.take n).takeWhile fun c => !isGap c)) R := by
  induction n generalizing text data with
  | zero => simp [copyValue]
  | succ n ih =>
      cases text with
      | nil =>
          simp [copyValue, CharBuffer.ends_memcpy]
      | cons c text =>
          cases hgap : isGap c with
          | true => simp [copyValue, hgap]
          | false =>
              have hnext := @ih (data ++ [c]) text
              rw [List.length_append, List.append_assoc] at hnext
              have hput : (Ends (b.memcpy data) fun out =>
                  Ends (copyValue data.length (n + 1) (c :: text) out) R) ↔
                    Ends (b.memcpy (data ++ [c])) fun out => Ends (copyValue (data.length + 1) n text out) R := by
                simp only [copyValue, hgap, Bool.false_eq_true, if_false, ends_bind]
                constructor
                · intro h
                  obtain ⟨hroom, hput⟩ := CharBuffer.ends_memcpy.1 h
                  rwa [put_overwrite] at hput
                · intro h
                  have hroom : data.length ≤ size := by
                    obtain ⟨hroom, -⟩ := CharBuffer.ends_memcpy.1 h
                    rw [List.length_append] at hroom
                    omega
                  exact CharBuffer.ends_memcpy.2 ⟨hroom, by rwa [put_overwrite]⟩
              rw [hput]
              simp only [List.length_singleton] at hnext
              rw [hnext]
              simp [hgap]

/-! ## Tokens -/

/-- The first token of a text that is delimited by gaps. -/
def firstToken (text : List UInt8) : List UInt8 := (text.dropWhile isGap).takeWhile fun c => !isGap c

@[simp]
theorem firstToken_nil : firstToken [] = [] := rfl

@[simp]
theorem firstToken_gap {c : UInt8} (h : isGap c = true) : firstToken (c :: text) = firstToken text := by
  rw [firstToken, List.dropWhile_cons_of_pos h, firstToken]

theorem firstToken_cons {c : UInt8} (h : isGap c = false) :
    firstToken (c :: text) = c :: text.takeWhile fun c => !isGap c := by
  rw [firstToken, List.dropWhile_cons_of_neg (by simp [h]), List.takeWhile_cons_of_pos (by simp [h])]

theorem firstToken_subset : firstToken text ⊆ text :=
  fun _ h => (List.dropWhile_sublist _).subset ((List.takeWhile_sublist _).subset h)

theorem length_firstToken : (firstToken text).length ≤ text.length :=
  (List.takeWhile_sublist _).length_le.trans (List.dropWhile_sublist _).length_le

/-- **Both loops copy the first token** of the `n` bytes, if it ends before the text does or they are all
    there. -/
theorem ends_loops {R : CharBuffer size → Prop} :
    (Ends (skipGaps n text) fun r => Ends (copyValue 0 r.1 r.2 b) R) ↔
      (n ≤ text.length ∨ HasGap (text.dropWhile isGap)) ∧ Ends (b.memcpy (firstToken (text.take n))) R := by
  induction n generalizing text with
  | zero => simp [skipGaps, copyValue, CharBuffer.memcpy_nil]
  | succ n ih =>
      cases text with
      | nil => simp [skipGaps]
      | cons c text =>
          cases hgap : isGap c with
          | true => simp [skipGaps, hgap, ih]
          | false =>
              have hcopy := @ends_copyValue size (n + 1) b [] (c :: text) R
              rw [CharBuffer.memcpy_nil, ends_ok, List.nil_append] at hcopy
              have hskip : skipGaps (n + 1) (c :: text) = .ok (n + 1, c :: text) := by
                simp [skipGaps, hgap]
              have hdrop : (c :: text).dropWhile isGap = c :: text :=
                List.dropWhile_cons_of_neg (by simp [hgap])
              rw [hskip, ends_ok, hdrop, firstToken, List.take_succ_cons,
                List.dropWhile_cons_of_neg (by simp [hgap])]
              exact hcopy

/-- What is copied from place `k` of a text up to its terminator. -/
theorem ends_getvalue {p : List UInt8} {k : ℕ} {R : CharBuffer size → Prop} (hsize : 0 < size) :
    (Ends (usrGetvalueBtweenpoint ((p ++ [0]).drop k) (p.length - k : ℤ) (.zeros size)) fun r => R r.2) ↔
      Ends ((CharBuffer.zeros size).memcpy (firstToken (p.drop k))) R := by
  unfold usrGetvalueBtweenpoint
  rcases Nat.lt_trichotomy p.length k with hlt | rfl | hgt
  · -- the name was at the end, and the point is behind the terminator
    rw [if_pos (by omega), List.drop_of_length_le hlt.le, firstToken_nil, CharBuffer.memcpy_nil, ends_ok, ends_ok]
  · -- the points coincide, and the terminator is copied
    have hput : put (CharBuffer.zeros size) 0 0 = .ok (CharBuffer.zeros size) := by
      cases size with
      | zero => cases hsize
      | succ size => rfl
    rw [if_neg (by omega), List.drop_left, List.drop_length, firstToken_nil, CharBuffer.memcpy_nil, Int.sub_self]
    simp [isGap, hput]
  · obtain ⟨n, hn⟩ : ∃ n, p.length - k = n + 1 := ⟨p.length - k - 1, by omega⟩
    have hcount : (p.length - k : ℤ) = (n + 1 : ℕ) := by omega
    have htake : ((p ++ [0]).drop k).take (n + 1) = p.drop k := by
      rw [List.drop_append_of_le_length hgt.le, ← hn, List.take_left' (List.length_drop ..)]
    rw [hcount, if_neg (by omega), Int.toNat_natCast]
    simp only [ends_bind, ends_pure]
    rw [ends_loops, htake, and_iff_right]
    left
    rw [List.length_drop, List.length_append]
    omega

/-! ## The method -/

/-- The first token, or the text, is over before the fifth byte. -/
def MethodInside (msg : CString) : Prop := 4 ≤ msg.strlen ∨ HasGap (msg.bytes.dropWhile isGap)

instance (msg : CString) : Decidable (MethodInside msg) :=
  inferInstanceAs (Decidable (4 ≤ msg.strlen ∨ HasGap (msg.bytes.dropWhile isGap)))

theorem hasGap_dropWhile_append_nul :
    HasGap ((text ++ [0]).dropWhile isGap) ↔ HasGap (text.dropWhile isGap) := by
  induction text with
  | nil => decide
  | cons c text ih =>
      cases hgap : isGap c with
      | true => simpa [hgap] using ih
      | false =>
          rw [List.cons_append, List.dropWhile_cons_of_neg (by simp [hgap]),
            List.dropWhile_cons_of_neg (by simp [hgap])]
          simp [HasGap, isGap]

/-- A terminator that is copied changes nothing. -/
theorem ofBuffer_firstToken_nul (h : 0 ∉ text) :
    (CString.ofBuffer (firstToken (text ++ [0]))).bytes = firstToken text := by
  induction text with
  | nil => decide
  | cons c text ih =>
      have hmem : 0 ∉ firstToken (c :: text) := fun hmem => h (firstToken_subset hmem)
      rw [List.mem_cons, not_or] at h
      cases hgap : isGap c with
      | true => rw [List.cons_append, firstToken_gap hgap, firstToken_gap hgap, ih h.2]
      | false =>
          rw [firstToken_cons hgap] at hmem ⊢
          rw [List.cons_append, firstToken_cons hgap, List.takeWhile_append]
          split
          · next hall =>
              have hwhole : text.takeWhile (fun c => !isGap c) = text :=
                (List.takeWhile_prefix _).eq_of_length hall
              rw [hwhole] at hmem ⊢
              exact (CString.bytes_ofBuffer_append hmem [0]).trans (List.append_nil _)
          · exact CString.bytes_ofBuffer hmem

/-- What `method` holds: the first token of the first five bytes. -/
theorem ends_method (msg : CString) {R : CharBuffer 8 → Prop}
    (hR : ∀ out : CharBuffer 8, out.Terminated → out.str = .ofBuffer (firstToken (msg.bytes.take 5)) → R out) :
    (Ends (usrGetvalueBtweenpoint (msg.bytes ++ [0]) 5 (.zeros 8)) fun r => R r.2) ↔ MethodInside msg := by
  have hlen : (firstToken ((msg.bytes ++ [0]).take 5)).length < 8 := by
    have htoken := @length_firstToken ((msg.bytes ++ [0]).take 5)
    rw [List.length_take] at htoken
    omega
  have htext : CString.ofBuffer (firstToken ((msg.bytes ++ [0]).take 5))
      = .ofBuffer (firstToken (msg.bytes.take 5)) := by
    by_cases hshort : msg.bytes.length ≤ 4
    · have hnul : 0 ∉ firstToken msg.bytes := fun hmem => msg.noNul (firstToken_subset hmem)
      rw [List.take_of_length_le (by rw [List.length_append, List.length_singleton]; omega),
        List.take_of_length_le (by omega)]
      refine CString.ext_bytes ?_
      rw [ofBuffer_firstToken_nul msg.noNul, CString.bytes_ofBuffer hnul]
    · rw [List.take_append_of_le_length (by omega)]
  have hcount : (5 : ℤ).toNat = 4 + 1 := rfl
  unfold usrGetvalueBtweenpoint
  rw [if_neg (by decide), hcount]
  simp only [ends_bind, ends_pure]
  rw [ends_loops, hasGap_dropWhile_append_nul, MethodInside, CString.strlen, and_iff_left]
  · rw [List.length_append, List.length_singleton]
    exact or_congr_left Nat.succ_le_succ_iff
  · refine CharBuffer.ends_memcpy.2 ⟨hlen.le, hR _ (CharBuffer.terminated_of_short hlen) ?_⟩
    rw [CharBuffer.str_overwrite_cleared, htext]

/-! ## The fields -/

/-- The token from `k` bytes behind the start of the first `name` on; there is none if the name is
    missing. -/
def tokenAt (name : List UInt8) (k : ℕ) (msg : CString) : List UInt8 :=
  match strstr name msg.bytes with
  | none => []
  | some p => firstToken (p.drop k)

/-- The token behind the first `name`. -/
def tokenBehind (name : List UInt8) (msg : CString) : List UInt8 := tokenAt name name.length msg

/-- The first byte of a text is a gap, or it is not missed: the text is over, or the byte is a token and
    the next token is the same. -/
def Skippable : List UInt8 → Prop
  | [] => True
  | c :: text => isGap c = true ∨ (∀ d ∈ text.head?, isGap d = true) ∧ firstToken text = [c]

/-- The byte behind the first `name` may be skipped. -/
def SkippableBehind (name : List UInt8) (msg : CString) : Prop :=
  ∀ p, strstr name msg.bytes = some p → Skippable (p.drop name.length)

theorem firstToken_tail_iff : firstToken (text.drop 1) = firstToken text ↔ Skippable text := by
  cases text with
  | nil => exact iff_of_true rfl trivial
  | cons c text =>
      rw [List.drop_succ_cons, List.drop_zero, Skippable]
      cases hgap : isGap c with
      | true => simp [hgap]
      | false =>
          rw [firstToken_cons hgap]
          simp only [Bool.false_eq_true, false_or]
          cases text with
          | nil => simp
          | cons d text =>
              cases hd : isGap d with
              | true => simp [hd]
              | false =>
                  rw [firstToken_cons hd]
                  simp [hd]

theorem tokenAt_eq_iff (name : List UInt8) (msg : CString) :
    tokenAt name (name.length + 1) msg = tokenBehind name msg ↔ SkippableBehind name msg := by
  unfold tokenBehind tokenAt SkippableBehind
  cases strstr name msg.bytes with
  | none => simp
  | some p =>
      simp only [Option.some.injEq, forall_eq']
      rw [← firstToken_tail_iff, List.drop_drop]

theorem zero_notMem_tokenAt (name : List UInt8) (k : ℕ) (msg : CString) : 0 ∉ tokenAt name k msg := by
  unfold tokenAt
  split
  · exact List.not_mem_nil
  · next p hfind =>
      obtain ⟨j, -, -, rfl⟩ := strstr_eq_some_iff.1 hfind
      exact fun hmem => msg.noNul (List.mem_of_mem_drop (List.mem_of_mem_drop (firstToken_subset hmem)))

theorem ends_getValueBehind (hsize : 0 < size) (name : List UInt8) (k : ℕ) (msg : CString)
    {R : ℤ × CharBuffer size → Prop} :
    Ends (getValueBehind name k msg (.zeros size)) R ↔
      Ends ((CharBuffer.zeros size).memcpy (tokenAt name k msg)) fun out =>
        R (if strstr name msg.bytes = none then keyFalse else keyTrue, out) := by
  unfold getValueBehind tokenAt
  cases strstr name msg.bytes with
  | none => simp [CharBuffer.memcpy_nil]
  | some p =>
      simp only [ends_exceptMap, reduceCtorEq, if_false]
      exact @ends_getvalue size p k (fun out => R (keyTrue, out)) hsize

/-- An array ends with a NUL and has that token. -/
def Has (out : CharBuffer size) (token : List UInt8) : Prop := out.Terminated ∧ out.str.bytes = token

theorem ends_token {token : List UInt8} (h : 0 ∉ data) :
    (Ends ((CharBuffer.zeros size).memcpy data) fun out => Has out token) ↔
      token.length < size ∧ data = token := by
  rw [CharBuffer.ends_memcpy]
  constructor
  · intro ⟨hfits, hterm, htoken⟩
    rw [CharBuffer.terminated_overwrite_zeros_iff h] at hterm
    rw [CharBuffer.str_overwrite_zeros h] at htoken
    exact ⟨htoken ▸ hterm, htoken⟩
  · rintro ⟨hlt, rfl⟩
    exact ⟨hlt.le, CharBuffer.terminated_of_short hlt, CharBuffer.str_overwrite_zeros h hlt.le⟩

/-- A field whose value is looked for one byte behind its name. -/
theorem ends_field (hsize : 0 < size) (name : List UInt8) (msg : CString) :
    (Ends (getValueBehind name (name.length + 1) msg (.zeros size)) fun r => Has r.2 (tokenBehind name msg)) ↔
      (tokenBehind name msg).length < size ∧ SkippableBehind name msg := by
  rw [ends_getValueBehind hsize, ends_token (zero_notMem_tokenAt _ _ _), tokenAt_eq_iff]

/-- What the length is taken to be. -/
def lengthIn (msg : CString) : ℤ :=
  if strstr upperName msg.bytes = none then keyFalse else atoi (tokenBehind upperName msg)

theorem ends_contentLenth (msg : CString) :
    (Ends (getHttpContentLenth msg) fun r => r.1 = lengthIn msg ∧ Has r.2 (tokenBehind upperName msg)) ↔
      (tokenBehind upperName msg).length < 16 ∧ SkippableBehind upperName msg := by
  rw [← ends_field (by decide), getHttpContentLenth, ends_bind]
  have hname : 16 = upperName.length + 1 := by decide
  rw [← hname, ends_getValueBehind (by decide), ends_getValueBehind (by decide), lengthIn]
  refine ends_congr fun out => ?_
  by_cases hnone : strstr upperName msg.bytes = none
  · simp [hnone]
  · have hfound : keyTrue ≠ keyFalse := by decide
    simp only [hnone, if_false, hfound, ends_ite, ends_pure]
    split
    · next hread => exact iff_of_false not_ends_error fun h => hread.1 h.1
    · exact and_iff_right_of_imp fun h => congrArg atoi h.2

/-! ## Within the arrays nothing changes -/

theorem ends_eq_iff {α : Type} {x : Except Fault α} {a : α} : Ends x (· = a) ↔ x = .ok a := by
  constructor
  · rintro ⟨b, hb, rfl⟩
    exact hb
  · exact fun h => ⟨a, h, rfl⟩

/-- A field that has been filled holds the token, as far as the array goes. -/
theorem getValueBehind_eq (hsize : 0 < size) {name : List UInt8} {k : ℕ} {r : ℤ × CharBuffer size}
    (h : getValueBehind name k msg (.zeros size) = .ok r) :
    ∃ hfits : (tokenAt name k msg).length ≤ size,
      r = (if strstr name msg.bytes = none then keyFalse else keyTrue,
        (CharBuffer.zeros size).overwrite (tokenAt name k msg) hfits) := by
  have hends := ends_eq_iff.2 h
  rw [ends_getValueBehind hsize, CharBuffer.ends_memcpy] at hends
  obtain ⟨hfits, heq⟩ := hends
  exact ⟨hfits, heq.symm⟩

theorem getValueInto_eq (h : (firstToken text).length ≤ size) :
    getValueInto size text = .ok (.ofBuffer (firstToken text)) := if_pos h

theorem getNamedValue_eq {name : List UInt8} (h : (tokenAt name (name.length + 1) msg).length ≤ size) :
    ((getNamedValue size name msg.bytes).map fun value => value.getD (.ofBuffer []))
      = .ok (.ofBuffer (tokenAt name (name.length + 1) msg)) := by
  unfold getNamedValue
  unfold tokenAt at h ⊢
  cases hfind : strstr name msg.bytes with
  | none => rfl
  | some p =>
      simp only [hfind] at h ⊢
      rw [getValueInto_eq h]
      rfl

theorem getHttpContentLenth_refines {r : ℤ × CharBuffer 16} (h : getHttpContentLenth msg = .ok r) :
    HttpAPI.getHttpContentLenth msg.bytes = .ok r.1 := by
  obtain ⟨v, hv, hrest⟩ := bind_eq_ok_iff.1 h
  obtain ⟨hfits, rfl⟩ := getValueBehind_eq (by decide) hv
  have hnul := zero_notMem_tokenAt upperName 16 msg
  unfold HttpAPI.getHttpContentLenth
  cases hfind : strstr upperName msg.bytes with
  | none =>
      simp only [hfind, if_true] at hrest
      cases hrest
      rfl
  | some p =>
      have htoken : tokenAt upperName 16 msg = firstToken (p.drop 16) := by rw [tokenAt, hfind]
      have hfound : keyTrue ≠ keyFalse := by decide
      simp only [hfind, reduceCtorEq, if_false, hfound] at hrest
      split at hrest
      · cases hrest
      · next hread =>
          cases hrest
          rw [CharBuffer.terminated_overwrite_zeros_iff hnul, CharBuffer.bytes_overwrite_zeros] at hread
          rw [CharBuffer.str_overwrite_zeros hnul]
          simp only [htoken] at hfits hread ⊢
          refine if_neg ?_
          rintro (hlong | ⟨hfull, hnumber⟩)
          · exact absurd hfits (Nat.not_le.2 hlong)
          · have hlength : (firstToken (p.drop 16)).length = 16 := hfull
            rw [hlength, Nat.sub_self, List.replicate_zero, List.append_nil] at hread
            exact hread ⟨Nat.lt_irrefl 16, hnumber⟩

/-- **What is filled within the arrays is what the rest of the server works with.** -/
theorem getHttpRequstHead_refines {r : RequstHead} (h : getHttpRequstHead msg = .ok r) :
    HttpAPI.getHttpRequstHead msg.bytes
      = .ok ⟨r.method, r.contentLength, r.host.str, r.url.str, r.boundary.str⟩ := by
  obtain ⟨m, hm, h⟩ := bind_eq_ok_iff.1 h
  obtain ⟨u, hu, h⟩ := bind_eq_ok_iff.1 h
  obtain ⟨o, ho, h⟩ := bind_eq_ok_iff.1 h
  obtain ⟨c, hc, h⟩ := bind_eq_ok_iff.1 h
  obtain ⟨d, hd, h⟩ := bind_eq_ok_iff.1 h
  cases h
  obtain ⟨hufits, rfl⟩ := getValueBehind_eq (by decide) hu
  obtain ⟨hofits, rfl⟩ := getValueBehind_eq (by decide) ho
  obtain ⟨hdfits, rfl⟩ := getValueBehind_eq (by decide) hd
  have hinside : MethodInside msg := (ends_method msg fun _ _ _ => trivial).1 ⟨m, hm, trivial⟩
  obtain ⟨m', hm', hmethod⟩ := (ends_method msg fun _ _ htext => htext).2 hinside
  cases hm.symm.trans hm'
  have hshort : (firstToken (msg.bytes.take 5)).length ≤ 8 :=
    length_firstToken.trans ((List.length_take_le 5 _).trans (by decide))
  have hurl : HttpAPI.getHttpUrl msg.bytes = .ok (.ofBuffer (tokenAt (ascii " ") 1 msg)) := by
    unfold HttpAPI.getHttpUrl
    unfold tokenAt at hufits ⊢
    cases hfind : strstr (ascii " ") msg.bytes with
    | none => rfl
    | some p =>
        simp only [hfind] at hufits
        exact getValueInto_eq hufits
  have hhost : HttpAPI.getHttpHost msg.bytes = .ok (.ofBuffer (tokenAt (ascii "Host:") 6 msg)) :=
    getNamedValue_eq hofits
  have hboundary : HttpAPI.getHttpBoundary msg.bytes = .ok (.ofBuffer (tokenAt (ascii "boundary=") 10 msg)) :=
    getNamedValue_eq hdfits
  rw [HttpAPI.getHttpRequstHead, getValueInto_eq hshort, hurl, hhost, getHttpContentLenth_refines hc, hboundary]
  simp only [hmethod, CharBuffer.str_overwrite_cleared]
  rfl

/-! ## The whole head -/

/-- Every array ends with a NUL and every value is the token behind its name. -/
structure Parsed (msg : CString) (head : RequstHead) : Prop where
  method : head.methodText.Terminated
  url : Has head.url (tokenBehind (ascii " ") msg)
  host : Has head.host (tokenBehind (ascii "Host:") msg)
  contentLength : head.contentLength = lengthIn msg
  tmp : Has head.tmp (tokenBehind upperName msg)
  boundary : Has head.boundary (tokenBehind (ascii "boundary=") msg)

/-- **When a head is parsed within its text and its arrays, and as it says.** For every text: when the
    method is over before the fifth byte or the text has them, and each token has room with a NUL
    behind it, and a byte may be skipped behind the three names that are not a blank. -/
theorem parsed_iff (msg : CString) : Ends (getHttpRequstHead msg) (Parsed msg) ↔
    MethodInside msg ∧ (tokenBehind (ascii " ") msg).length < 128 ∧
      ((tokenBehind (ascii "Host:") msg).length < 64 ∧ SkippableBehind (ascii "Host:") msg) ∧
      ((tokenBehind upperName msg).length < 16 ∧ SkippableBehind upperName msg) ∧
      (tokenBehind (ascii "boundary=") msg).length < 256 ∧ SkippableBehind (ascii "boundary=") msg := by
  have hparsed (methodText : CharBuffer 8) (url : CharBuffer 128) (host : CharBuffer 64)
      (r : ℤ × CharBuffer 16) (boundary : CharBuffer 256) :
      Parsed msg ⟨methodText, httpMethodStrToInt methodText.str, url, host, r.2, r.1, boundary⟩ ↔
        Has boundary (tokenBehind (ascii "boundary=") msg) ∧
          (r.1 = lengthIn msg ∧ Has r.2 (tokenBehind upperName msg)) ∧
          Has host (tokenBehind (ascii "Host:") msg) ∧ Has url (tokenBehind (ascii " ") msg) ∧
          methodText.Terminated :=
    ⟨fun h => ⟨h.boundary, ⟨h.contentLength, h.tmp⟩, h.host, h.url, h.method⟩,
      fun ⟨hboundary, ⟨hlength, htmp⟩, hhost, hurl, hmethod⟩ =>
        ⟨hmethod, hurl, hhost, hlength, htmp, hboundary⟩⟩
  have hurl : (Ends (getHttpUrl msg (.zeros 128)) fun r => Has r.2 (tokenBehind (ascii " ") msg)) ↔
      (tokenBehind (ascii " ") msg).length < 128 := by
    rw [getHttpUrl, ends_getValueBehind (by decide), ends_token (zero_notMem_tokenAt _ _ _)]
    exact and_iff_left rfl
  have hmethod := @ends_method msg CharBuffer.Terminated fun _ h _ => h
  have hhost : (Ends (getHttpHost msg (.zeros 64)) fun r => Has r.2 (tokenBehind (ascii "Host:") msg)) ↔
      (tokenBehind (ascii "Host:") msg).length < 64 ∧ SkippableBehind (ascii "Host:") msg :=
    ends_field (by decide) (ascii "Host:") msg
  have hboundary : (Ends (getHttpBoundary msg (.zeros 256)) fun r =>
      Has r.2 (tokenBehind (ascii "boundary=") msg)) ↔
        (tokenBehind (ascii "boundary=") msg).length < 256 ∧ SkippableBehind (ascii "boundary=") msg :=
    ends_field (by decide) (ascii "boundary=") msg
  rw [getHttpRequstHead]
  simp only [ends_bind, ends_pure, hparsed, ends_and, ends_and_left]
  rw [hurl, hmethod, ends_contentLenth, hhost, hboundary]
  constructor
  · rintro ⟨boundary, tmp, host, url, method⟩
    exact ⟨method, url, host, tmp, boundary⟩
  · rintro ⟨method, url, host, tmp, boundary⟩
    exact ⟨boundary, tmp, host, url, method⟩

/-- A request that is parsed as it says. -/
example : (getHttpRequstHead (.ofBuffer (ascii "GET /map HTTP/1.1\r\nHost: here\r\n\r\n"))).map
    (fun r => (r.method, r.url.str.bytes, r.host.str.bytes, r.contentLength)) =
      .ok (.get, ascii "/map", ascii "here", -1) := by
  decide

/-- A request with a form. -/
def formRequest : CString :=
  .ofBuffer (ascii "POST /map HTTP/1.1\r\nContent-Type: multipart/form-data; boundary=abc\r\n\r\n")

/-- The first byte of a boundary is lost. -/
theorem boundary_cut :
    (getHttpRequstHead formRequest).map (fun r => r.boundary.str.bytes) = .ok (ascii "bc") ∧
      ¬ Ends (getHttpRequstHead formRequest) (Parsed formRequest) := by
  have hrun : (getHttpRequstHead formRequest).map (fun r => r.boundary.str.bytes) = .ok (ascii "bc") := by
    decide
  refine ⟨hrun, fun ⟨r, hr, hparsed⟩ => ?_⟩
  rw [hr] at hrun
  have htext : r.boundary.str.bytes = ascii "bc" := Except.ok.inj hrun
  have hboundary := hparsed.boundary.2
  rw [htext] at hboundary
  exact absurd hboundary (by decide)

end SmartPlat.HttpAPI.Buffers
