import SmartPlat.Base64Text.Proofs.StrictDecoder

set_option autoImplicit false

/-! # The other decoder

`base64Decode` writes three bytes for every group of four symbols, also for the last one. -/

namespace SmartPlat.Base64Text

open SmartPlat.Lib

variable {x text : List UInt8} {m : ℕ → UInt8} {origLength : UInt32} {jMax : ℤ} {j n : ℕ}

/-! ## The property -/

/-- The text at `result` decodes to the bytes and their number. -/
def RoundTrips (m : ℕ → UInt8) (x : List UInt8) (origLength : UInt32) : Prop :=
  ∃ text : CString, Holds (base64Encode m (some x) origLength).2 (text.bytes ++ [0]) ∧
    base64Decode text = .ok (x.length, x)

/-! ## Groups -/

/-- What is written for a text. -/
def decodeGroups : List UInt8 → List UInt8
  | c₀ :: c₁ :: c₂ :: c₃ :: text => decodeGroup c₀ c₁ c₂ c₃ ++ decodeGroups text
  | _ => []

theorem outTmp_symbol : ∀ k < 64, outTmp (Base64.symbol k) = k := by decide +kernel

theorem ofNat_mod {k : ℕ} {b : UInt8} (h : k % 256 = b.toNat) : UInt8.ofNat k = b := by
  rw [← UInt8.toNat_inj, UInt8.toNat_ofNat']
  exact h

/-- **Whole groups** are given back. -/
theorem decodeGroups_encode (h : x.length % 3 = 0) : decodeGroups (Base64.encode x) = x := by
  fun_induction Base64.encode x with
  | case1 a b c x ih =>
      have hlen : x.length % 3 = 0 := by
        simp only [List.length_cons] at h
        omega
      have ha := a.toNat_lt
      have hb := b.toNat_lt
      have hc := c.toNat_lt
      rw [decodeGroups, ih hlen, decodeGroup, outTmp_symbol _ (by omega), outTmp_symbol _ (by omega),
        outTmp_symbol _ (by omega), outTmp_symbol _ (by omega), (shiftRight_eq _).2.1, (shiftRight_eq _).1]
      rw [shiftLeft_or 2 (by omega), shiftLeft_or 4 (by omega), shiftLeft_or 6 (by omega),
        ofNat_mod (b := a) (by omega), ofNat_mod (b := b) (by omega), ofNat_mod (b := c) (by omega)]
      rfl
  | case2 a b => simp at h
  | case3 a => simp at h
  | case4 => rfl

/-! ## The loop -/

/-- **The loop on whole groups**, in a text whose length is an `int`. -/
theorem decodeFrom_eq (hn : (text.drop j).length = 4 * n) (hlt : text.length < 2 ^ 31) :
    decodeFrom text (text.length - 3) j = .ok (decodeGroups (text.drop j)) := by
  induction n generalizing j with
  | zero =>
      have hempty : text.drop j = [] := List.length_eq_zero_iff.1 hn
      rw [List.length_drop] at hn
      rw [decodeFrom, if_neg (by omega), hempty, decodeGroups]
      exact fun _ _ _ _ _ h => List.cons_ne_nil _ _ h.symm
  | succ n ih =>
      obtain ⟨c₀, c₁, c₂, rest, hdrop⟩ := exists_three (l := text.drop j) (by omega)
      obtain ⟨c₃, rest, rfl⟩ : ∃ c₃ rest', rest = c₃ :: rest' := by
        refine List.exists_cons_of_ne_nil ?_
        rintro rfl
        simp [hdrop] at hn
        omega
      have hget (k : ℕ) : text.getD (j + k) 0 = (c₀ :: c₁ :: c₂ :: c₃ :: rest).getD k 0 := by
        rw [← hdrop, List.getD_eq_getElem?_getD, List.getD_eq_getElem?_getD, List.getElem?_drop]
      have hrest : text.drop (j + 4) = rest := by
        rw [← List.drop_drop, hdrop]
        rfl
      rw [hdrop] at hn
      have hnext : (text.drop (j + 4)).length = 4 * n := by
        rw [hrest]
        simp only [List.length_cons] at hn
        omega
      have hlen : (text.drop (j + 4)).length = text.length - (j + 4) := List.length_drop
      have hdropped : (text.drop j).length = text.length - j := List.length_drop
      rw [hdrop] at hdropped
      rw [decodeFrom, if_pos (by omega), if_pos (by omega), ih hnext, hdrop, hrest, decodeGroups]
      have hfirst := hget 0
      rw [Nat.add_zero] at hfirst
      rw [hfirst, hget 1, hget 2, hget 3]
      rfl

theorem length_decodeGroup (c₀ c₁ c₂ c₃ : UInt8) : (decodeGroup c₀ c₁ c₂ c₃).length = 3 := rfl

/-- **Each round** writes three bytes, and the rounds are counted in an `int`. -/
theorem length_decodeFrom {out : List UInt8} (h : decodeFrom text jMax j = .ok out) (hj : j < 2 ^ 31) :
    out.length % 3 = 0 ∧ 4 * out.length + 3 * j < 3 * 2 ^ 31 := by
  induction j using decodeFrom.induct text jMax generalizing out with
  | case1 j hlt hfits ih =>
      rw [decodeFrom, if_pos hlt, if_pos hfits] at h
      cases hrest : decodeFrom text jMax (j + 4) with
      | error e =>
          rw [hrest] at h
          cases h
      | ok out' =>
          rw [hrest] at h
          obtain ⟨hthree, hbound⟩ := ih hrest hfits
          rw [← Except.ok.inj h, List.length_append, length_decodeGroup]
          omega
  | case2 j hlt hfits =>
      rw [decodeFrom, if_pos hlt, if_neg hfits] at h
      cases h
  | case3 j hlt =>
      rw [decodeFrom, if_neg hlt] at h
      cases h
      simp
      omega

/-! ## The result -/

theorem RoundTrips.length (h : RoundTrips m x origLength) : x.length % 3 = 0 ∧ x.length < 3 * 2 ^ 29 := by
  obtain ⟨text, -, hdecode⟩ := h
  rw [base64Decode] at hdecode
  cases hloop : decodeFrom text.bytes (Int32.ofInt (text.strlen - 3)).toInt 0 with
  | error e =>
      rw [hloop] at hdecode
      cases hdecode
  | ok out =>
      rw [hloop] at hdecode
      have hout : out = x := congrArg Prod.snd (Except.ok.inj hdecode)
      obtain ⟨hthree, hbound⟩ := length_decodeFrom hloop (by decide)
      rw [hout] at hthree hbound
      exact ⟨hthree, by omega⟩

/-- **The round trip** is made exactly by the byte strings of whole groups whose text has a length that is an
    `int`. -/
theorem roundTrips_iff (m : ℕ → UInt8) (x : List UInt8) (origLength : UInt32) (h : origLength.toNat = x.length) :
    RoundTrips m x origLength ↔ x.length % 3 = 0 ∧ x.length < 3 * 2 ^ 29 := by
  refine ⟨RoundTrips.length, fun ⟨hthree, hlt⟩ => ?_⟩
  have hlen : (Base64.encode x).length = 4 * (x.length / 3) := by
    rw [Base64.length_encode]
    omega
  refine ⟨⟨Base64.encode x, Base64.zero_notMem_encode x⟩, holds_base64Encode m h (by omega), ?_⟩
  have hmax : (Int32.ofInt ((Base64.encode x).length - 3)).toInt = (Base64.encode x).length - 3 :=
    Int32.toInt_ofInt_of_le (by omega) (by omega)
  have hloop := decodeFrom_eq (j := 0) (n := x.length / 3) hlen (by omega)
  rw [List.drop_zero, decodeGroups_encode hthree] at hloop
  rw [base64Decode, CString.strlen, hmax, hloop]
  rfl

/-- Three bytes, over a memory that is not cleared. -/
theorem roundTrips_iff_three : (3 : UInt32).toNat = (ascii "abc").length ∧
    (RoundTrips (fun _ => 255) (ascii "abc") 3 ↔
      (ascii "abc").length % 3 = 0 ∧ (ascii "abc").length < 3 * 2 ^ 29) :=
  ⟨by decide, roundTrips_iff _ _ _ (by decide)⟩

/-- One byte comes back as three. -/
theorem not_roundTrips_one :
    Holds (base64Encode (fun _ => 255) (some (ascii "A")) 1).2 (ascii "QQ==" ++ [0]) ∧
      (∀ text : CString, text.bytes = ascii "QQ==" → base64Decode text = .ok (3, [65, 0, 0])) ∧
      ¬ RoundTrips (fun _ => 255) (ascii "A") 1 := by
  refine ⟨holds_base64Encode _ (by decide) (by decide), ?_, fun h => absurd h.length.1 (by decide)⟩
  intro text htext
  have hloop : decodeFrom text.bytes (text.bytes.length - 3) 0 = .ok (decodeGroups text.bytes) :=
    decodeFrom_eq (j := 0) (n := 1) (by rw [htext]; rfl) (by rw [htext]; decide)
  rw [base64Decode, CString.strlen, show text.bytes.length = 4 by rw [htext]; rfl]
  rw [htext] at hloop ⊢
  exact congrArg _ hloop

end SmartPlat.Base64Text
