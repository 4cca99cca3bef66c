import SmartPlat.UsrString.Substrings

set_option autoImplicit false

/-! # What `usr_str_btweenpoint` finds

The leftmost occurrence in its range, and NULL where there is none, as far as its `int`s reach. -/

namespace SmartPlat

variable {text range needle : List UInt8} {str : CString} {strlenth : Int32} {front behind i j k n : ℕ}

/-! ## The property -/

/-- A range in a text, which is no larger than an object can be, and a pattern that is not empty. -/
structure Searchable (text : List UInt8) (front behind : ℕ) (str : CString) : Prop where
  ordered : front ≤ behind
  inside : behind ≤ text.length
  object : text.length < 2 ^ 63
  nonempty : str.bytes ≠ []

/-- The leftmost occurrence in the range is returned, NULL if there is none. -/
def FindsFirst (text : List UInt8) (front behind : ℕ) (str : CString) : Prop :=
  (∀ k, FirstAt str.bytes (rangeOf text front behind) k →
    usrStrBtweenpoint text (some front) (some behind) (some str) = .ok (some (front + k))) ∧
  (¬ str.bytes <:+: rangeOf text front behind →
    usrStrBtweenpoint text (some front) (some behind) (some str) = .ok none)

/-! ## The condition -/

/-- `strlen(str) - 1`, as an `int` -/
def lastIndex (str : CString) : ℤ := (Int32.ofNat str.strlen - 1).toInt

/-- What the `int`s of the search can reach: the pattern is longer than the range; or the range is not too
    long; or the part of the pattern that they know of comes first where the pattern does, and ends early
    enough. -/
def InReach (range : List UInt8) (str : CString) : Prop :=
  range.length < str.strlen ∨ range.length + 1 < 2 ^ 31 ∨
    ∃ k, 0 ≤ lastIndex str ∧ FirstAt (str.bytes.take ((lastIndex str).toNat + 1)) range k ∧
      str.bytes <+: range.drop k ∧ k + (lastIndex str).toNat < 2 ^ 31

/-! ## The inner loop -/

theorem ofNat_eq_iff (h : j < 2 ^ 31) :
    Int32.ofNat j = Int32.ofNat str.strlen - 1 ↔ (j : ℤ) = lastIndex str := by
  rw [lastIndex, ← Int32.toInt_inj, Int32.toInt_ofNat_of_lt h]

theorem lastIndex_eq (str : CString) : lastIndex str = ((str.strlen : ℤ) - 1).bmod (2 ^ 32) := by
  rw [lastIndex, Int32.toInt_sub, Int32.toInt_ofNat']
  exact Int.bmod_sub_bmod

/-- The pattern goes on at least up to there. -/
theorem lastIndex_lt_strlen (h : 0 < str.strlen) : lastIndex str < str.strlen := by
  have hle := bmod_le_self (str.strlen - 1) (2 ^ 32)
  have hpred : ((str.strlen - 1 : ℕ) : ℤ) = str.strlen - 1 := Nat.cast_pred h
  rw [lastIndex_eq, ← hpred]
  omega

/-- A pattern whose length is an `int` is known as a whole. -/
theorem lastIndex_of_lt (h : 0 < str.strlen) (hlt : str.strlen < 2 ^ 31) : lastIndex str = str.strlen - 1 := by
  rw [lastIndex_eq]
  exact Int.bmod_eq_of_le (by omega) (by omega)

/-- One comparison, and with it the prefix. -/
theorem prefix_drop_iff {t range : List UInt8} (hj : j < t.length) (hin : i < range.length) :
    t.drop j <+: range.drop i ↔ t.getD j 0 = range.getD i 0 ∧ t.drop (j + 1) <+: range.drop (i + 1) := by
  rw [List.drop_eq_getElem_cons hj, List.drop_eq_getElem_cons hin, List.cons_prefix_cons,
    List.getD_eq_getElem?_getD, List.getD_eq_getElem?_getD, List.getElem?_eq_getElem hj,
    List.getElem?_eq_getElem hin]
  rfl

/-- **The comparison at `i`**, when it does not leave the range. -/
theorem compareFrom_eq {e : ℕ} (he : lastIndex str = e) (hlen : e < str.strlen) (hin : i + e < range.length)
    (hfits : i + e < 2 ^ 31) (hj : j ≤ e) :
    compareFrom range str (Int32.ofNat str.strlen) i j =
      .ok (decide ((str.bytes.take (e + 1)).drop j <+: range.drop (i + j))) := by
  rw [CString.strlen] at hlen
  have htake : (str.bytes.take (e + 1)).length = e + 1 := by
    rw [List.length_take]
    omega
  have hbyte (k : ℕ) (hk : k ≤ e) : (str.bytes ++ [0]).getD k 0 = (str.bytes.take (e + 1)).getD k 0 := by
    rw [List.getD_eq_getElem?_getD, List.getD_eq_getElem?_getD, List.getElem?_take_of_lt (by omega),
      List.getElem?_append_left (by omega)]
  have hnext (k : ℕ) (hk : k ≤ e) : (str.bytes.take (e + 1)).drop k <+: range.drop (i + k) ↔
      (str.bytes.take (e + 1)).getD k 0 = range.getD (i + k) 0 ∧
        (str.bytes.take (e + 1)).drop (k + 1) <+: range.drop (i + k + 1) :=
    prefix_drop_iff (by omega) (by omega)
  induction j using compareFrom.induct range str (Int32.ofNat str.strlen) i with
  | case1 j hguard hsame hlast =>
      rw [ofNat_eq_iff (by omega), he] at hlast
      have hend : (str.bytes.take (e + 1)).drop (j + 1) = [] := List.drop_eq_nil_of_le (by omega)
      rw [compareFrom, if_pos hguard, if_pos hsame, if_pos ((ofNat_eq_iff (by omega)).2 (by omega)),
        decide_eq_true ((hnext j hj).2 ⟨hbyte j hj ▸ hsame, hend ▸ List.nil_prefix⟩)]
  | case2 j hguard hsame hmore ih =>
      have hlt : j < e := by
        rw [ofNat_eq_iff (by omega), he] at hmore
        omega
      have hrest := (hnext j hj).trans (and_iff_right (hbyte j hj ▸ hsame))
      rw [compareFrom, if_pos hguard, if_pos hsame, if_neg hmore, ih hlt, decide_eq_decide.2 hrest]
      rfl
  | case3 j hguard hother =>
      rw [hbyte j hj] at hother
      rw [compareFrom, if_pos hguard, hbyte j hj, if_neg hother,
        decide_eq_false fun h => hother ((hnext j hj).1 h).1]
  | case4 j hguard =>
      rw [CString.strlen] at hguard
      omega

theorem compareFrom_zero {e : ℕ} (he : lastIndex str = e) (hlen : e < str.strlen) (hin : i + e < range.length)
    (hfits : i + e < 2 ^ 31) :
    compareFrom range str (Int32.ofNat str.strlen) i 0 =
      .ok (decide (str.bytes.take (e + 1) <+: range.drop i)) :=
  compareFrom_eq he hlen hin hfits (Nat.zero_le _)

/-- **A comparison that returns** has come to the end of what is known of the pattern. -/
theorem compareFrom_true (h : compareFrom range str (Int32.ofNat str.strlen) i j = .ok true) :
    0 ≤ lastIndex str ∧ i + (lastIndex str).toNat < range.length ∧ i + (lastIndex str).toNat < 2 ^ 31 := by
  induction j using compareFrom.induct range str (Int32.ofNat str.strlen) i with
  | case1 j hguard hsame hlast =>
      rw [ofNat_eq_iff (by omega)] at hlast
      omega
  | case2 j hguard hsame hmore ih =>
      rw [compareFrom, if_pos hguard, if_pos hsame, if_neg hmore] at h
      exact ih h
  | case3 j hguard hother =>
      rw [compareFrom, if_pos hguard, if_neg hother] at h
      cases h
  | case4 j hguard =>
      rw [compareFrom, if_neg hguard] at h
      cases h

/-! ## The outer loop -/

/-- The test of the loop, for what is known of the pattern. -/
theorem toInt_add_le {e : ℕ} (he : lastIndex str = e) (h : i + e < range.length) :
    (Int32.ofNat i + Int32.ofNat str.strlen).toInt ≤ range.length := by
  have hsum : ((i + 1 : ℕ) : ℤ) + (str.strlen - 1) = i + str.strlen := by
    rw [Nat.cast_add, Nat.cast_one]
    omega
  have hsame : (Int32.ofNat i + Int32.ofNat str.strlen).toInt = ((i + 1 + e : ℕ) : ℤ).bmod (2 ^ 32) := by
    have hleft : ((i : ℤ).bmod (2 ^ 32) + (str.strlen : ℤ).bmod (2 ^ 32)).bmod (2 ^ 32) =
        (i + str.strlen : ℤ).bmod (2 ^ 32) := Int.bmod_add_bmod.trans Int.add_bmod_bmod
    rw [Int32.toInt_add, Int32.toInt_ofNat', Int32.toInt_ofNat', Nat.cast_add, ← he, lastIndex_eq]
    exact hleft.trans (hsum ▸ Int.add_bmod_bmod.symm)
  have hle := bmod_le_self (i + 1 + e) (2 ^ 32)
  rw [hsame]
  omega

theorem FirstAt.fits {e : ℕ} (hlen : e < str.strlen) (hk : FirstAt (str.bytes.take (e + 1)) range k) :
    k + e < range.length := by
  rw [CString.strlen] at hlen
  have hle := hk.here.length_le
  rw [List.length_take, List.length_drop] at hle
  omega

/-- **The search** goes on to the first place where it finds what it knows of the pattern. -/
theorem searchFrom_found {e : ℕ} (he : lastIndex str = e) (hlen : e < str.strlen)
    (hk : FirstAt (str.bytes.take (e + 1)) range k) (hfits : k + e < 2 ^ 31) (hle : i ≤ k) :
    searchFrom range str (Int32.ofNat str.strlen) i = .ok (some k) := by
  have hin := hk.fits hlen
  induction hd : k - i generalizing i with
  | zero =>
      obtain rfl : i = k := by omega
      rw [searchFrom, if_pos (toInt_add_le he hin), compareFrom_zero he hlen hin hfits, decide_eq_true hk.here,
        ok_bind, if_pos rfl]
  | succ d ih =>
      have hin' : i + e < range.length := by omega
      rw [searchFrom, if_pos (toInt_add_le he hin'), compareFrom_zero he hlen hin' (by omega),
        decide_eq_false (hk.notBefore i (by omega)), ok_bind, if_neg Bool.false_ne_true, if_pos (by omega)]
      exact ih (by omega) (by omega)

/-- A range that is short enough is searched up to its end. -/
theorem searchFrom_notFound (hpos : 0 < str.strlen) (hfits : range.length + 1 < 2 ^ 31)
    (hnot : ¬ str.bytes <:+: range) (hle : i + str.strlen ≤ range.length + 1) :
    searchFrom range str (Int32.ofNat str.strlen) i = .ok none := by
  have he : lastIndex str = (str.strlen - 1 : ℕ) := by
    rw [lastIndex_of_lt hpos (by omega)]
    omega
  have hall : str.bytes.take (str.strlen - 1 + 1) = str.bytes := List.take_of_length_le (by rw [CString.strlen]; omega)
  induction hd : range.length + 1 - str.strlen - i generalizing i with
  | zero =>
      have hend : (Int32.ofNat i + Int32.ofNat str.strlen).toInt = (range.length + 1 : ℕ) := by
        rw [← Int32.ofNat_add, Int32.toInt_ofNat_of_lt (by omega)]
        omega
      rw [searchFrom, if_neg]
      rw [hend]
      omega
  | succ d ih =>
      have hin : i + (str.strlen - 1) < range.length := by omega
      have hnone : ¬ str.bytes <+: range.drop i :=
        fun h => hnot (h.isInfix.trans (List.drop_suffix i range).isInfix)
      rw [searchFrom, if_pos (toInt_add_le he hin), compareFrom_zero he (by omega) hin (by omega), hall,
        decide_eq_false hnone, ok_bind, if_neg Bool.false_ne_true, if_pos (by omega)]
      exact ih (by omega) (by omega)

/-- A search that returns NULL has come to the end of a range that is short enough. -/
theorem searchFrom_none (h : searchFrom range str strlenth i = .ok none) : range.length + 1 < 2 ^ 31 := by
  induction i using searchFrom.induct range strlenth with
  | case1 i hle ih =>
      rw [searchFrom, if_pos hle] at h
      obtain ⟨found, -, h⟩ := bind_eq_ok_iff.1 h
      split at h
      · cases h
      · split at h
        · next hfits => exact ih hfits h
        · cases h
  | case2 i hgt =>
      have hlt := (Int32.ofNat i + strlenth).toInt_lt
      omega

/-- A search that succeeds has compared at all places before. -/
theorem searchFrom_some (h : searchFrom range str strlenth i = .ok (some k)) :
    i ≤ k ∧ compareFrom range str strlenth k 0 = .ok true ∧
      ∀ j, i ≤ j → j < k → compareFrom range str strlenth j 0 = .ok false := by
  induction i using searchFrom.induct range strlenth with
  | case1 i hle ih =>
      rw [searchFrom, if_pos hle] at h
      obtain ⟨found, hcompare, h⟩ := bind_eq_ok_iff.1 h
      cases found with
      | true =>
          cases h
          exact ⟨le_rfl, hcompare, fun j hij hjk => absurd hjk (not_lt.2 hij)⟩
      | false =>
          rw [if_neg Bool.false_ne_true] at h
          split at h
          · next hfits =>
              obtain ⟨hle, hfound, hbefore⟩ := ih hfits h
              refine ⟨by omega, hfound, fun j hij hjk => ?_⟩
              rcases hij.lt_or_eq with hlt | rfl
              · exact hbefore j hlt hjk
              · exact hcompare
          · cases h
  | case2 i hgt =>
      rw [searchFrom, if_neg hgt] at h
      cases h

/-! ## `usr_str_btweenpoint` -/

theorem Searchable.strlen_pos (h : Searchable text front behind str) : 0 < str.strlen :=
  List.length_pos_iff.2 h.nonempty

theorem Searchable.length_rangeOf (h : Searchable text front behind str) :
    (rangeOf text front behind).length = behind - front := by
  have hin := h.inside
  rw [rangeOf, List.length_drop, List.length_take]
  omega

theorem usrStrBtweenpoint_eq (h : Searchable text front behind str) :
    usrStrBtweenpoint text (some front) (some behind) (some str) =
      if (rangeOf text front behind).length < str.strlen then .ok none
      else (searchFrom (rangeOf text front behind) str (Int32.ofNat str.strlen) 0).map
        fun r => r.map (front + ·) := by
  have hpos := h.strlen_pos
  have hle := h.ordered
  have hin := h.inside
  have hobject := h.object
  have hsize : sizeT ((behind : ℤ) - front) = behind - front := by
    rw [sizeT]
    omega
  have hrefused : (str.strlen > behind - front ∨ (behind - front : ℤ) ≤ 0) ↔ behind - front < str.strlen := by
    omega
  rw [h.length_rangeOf]
  simp only [usrStrBtweenpoint, hsize, hrefused]

theorem exists_firstAt_of_infix (h : needle <:+: range) : ∃ k, FirstAt needle range k := by
  obtain ⟨before, after, rfl⟩ := h
  have hhere : needle <+: (before ++ needle ++ after).drop before.length := by
    rw [List.append_assoc, List.drop_left]
    exact List.prefix_append _ _
  obtain ⟨k, -, hk⟩ := exists_firstAt hhere
  exact ⟨k, hk⟩

theorem FirstAt.infix (h : FirstAt needle range k) : needle <:+: range :=
  h.here.isInfix.trans (List.drop_suffix k range).isInfix

/-- The first place of a part of the pattern is the first of the pattern, if the pattern is there. -/
theorem FirstAt.of_take (h : FirstAt (str.bytes.take n) range k) (hhere : str.bytes <+: range.drop k) :
    FirstAt str.bytes range k :=
  ⟨hhere, fun j hj hstr => h.notBefore j hj ((List.take_prefix n _).trans hstr)⟩

/-- **What `usr_str_btweenpoint` finds in reach.** -/
theorem InReach.findsFirst (h : Searchable text front behind str) (hreach : InReach (rangeOf text front behind) str) :
    FindsFirst text front behind str := by
  have hpos := h.strlen_pos
  rw [FindsFirst, usrStrBtweenpoint_eq h]
  by_cases hshort : (rangeOf text front behind).length < str.strlen
  · rw [if_pos hshort]
    exact ⟨fun k hk => absurd hk.infix.length_le (not_le.2 hshort), fun _ => rfl⟩
  rw [if_neg hshort]
  rcases hreach with hlt | hfits | ⟨k, hknown, hk, hhere, hend⟩
  · exact absurd hlt hshort
  · have he : lastIndex str = (str.strlen - 1 : ℕ) := by
      rw [lastIndex_of_lt hpos (by omega)]
      omega
    have hall : str.bytes.take (str.strlen - 1 + 1) = str.bytes :=
      List.take_of_length_le (by rw [CString.strlen]; omega)
    refine ⟨fun k hk => ?_, fun hnot => ?_⟩
    · rw [← hall] at hk
      have hin := hk.fits (by omega)
      rw [searchFrom_found he (by omega) hk (by omega) (Nat.zero_le k)]
      rfl
    · rw [searchFrom_notFound hpos hfits hnot (by omega)]
      rfl
  · have he : lastIndex str = (lastIndex str).toNat := (Int.toNat_of_nonneg hknown).symm
    have hlen := lastIndex_lt_strlen hpos
    have hfirst := hk.of_take hhere
    refine ⟨fun j hj => ?_, fun hnot => absurd hfirst.infix hnot⟩
    rw [hj.unique hfirst, searchFrom_found he (by omega) hk hend (Nat.zero_le k)]
    rfl

/-- A search that returns a place has found there, first, what it knows of the pattern. -/
theorem searchFrom_firstAt (hpos : 0 < str.strlen)
    (h : searchFrom range str (Int32.ofNat str.strlen) 0 = .ok (some k)) :
    0 ≤ lastIndex str ∧ FirstAt (str.bytes.take ((lastIndex str).toNat + 1)) range k ∧
      k + (lastIndex str).toNat < 2 ^ 31 := by
  obtain ⟨-, hfound, hbefore⟩ := searchFrom_some h
  obtain ⟨hknown, hin, hend⟩ := compareFrom_true hfound
  have he : lastIndex str = (lastIndex str).toNat := (Int.toNat_of_nonneg hknown).symm
  have hlen := lastIndex_lt_strlen hpos
  refine ⟨hknown, ⟨?_, fun j hj => ?_⟩, hend⟩
  · rw [compareFrom_zero he (by omega) hin hend] at hfound
    exact of_decide_eq_true (Except.ok.inj hfound)
  · have hfalse := hbefore j (Nat.zero_le j) hj
    rw [compareFrom_zero he (by omega) (by omega) (by omega)] at hfalse
    exact of_decide_eq_false (Except.ok.inj hfalse)

/-- **The leftmost occurrence** is returned exactly as far as the `int`s reach. -/
theorem findsFirst_iff (h : Searchable text front behind str) :
    FindsFirst text front behind str ↔ InReach (rangeOf text front behind) str := by
  refine ⟨fun hfinds => ?_, InReach.findsFirst h⟩
  rw [FindsFirst, usrStrBtweenpoint_eq h] at hfinds
  by_cases hshort : (rangeOf text front behind).length < str.strlen
  · exact .inl hshort
  rw [if_neg hshort] at hfinds
  by_cases hinfix : str.bytes <:+: rangeOf text front behind
  · obtain ⟨k, hk⟩ := exists_firstAt_of_infix hinfix
    obtain ⟨r, hsearch, hr⟩ := map_eq_ok_iff.1 (hfinds.1 k hk)
    obtain ⟨j, rfl, hj⟩ := Option.map_eq_some_iff.1 hr
    obtain rfl : j = k := Nat.add_left_cancel hj
    obtain ⟨hknown, hfirst, hend⟩ := searchFrom_firstAt h.strlen_pos hsearch
    exact .inr (.inr ⟨j, hknown, hfirst, hk.here, hend⟩)
  · obtain ⟨r, hsearch, hr⟩ := map_eq_ok_iff.1 (hfinds.2 hinfix)
    obtain rfl : r = none := Option.map_eq_none_iff.1 hr
    exact .inr (.inl (searchFrom_none hsearch))

end SmartPlat
