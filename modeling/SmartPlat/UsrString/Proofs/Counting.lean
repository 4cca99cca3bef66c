import SmartPlat.UsrString.Proofs.Substrings

set_option autoImplicit false

/-! # What `usr_strnum_btweenpoint` counts and `usr_strcasecmp` compares -/

namespace SmartPlat

variable {text range rest needle : List UInt8} {str s t : CString} {count c : Int32}
  {front behind k m n fuel : ℕ}

/-! ## The properties -/

/-- The number of occurrences, each the leftmost one behind the one before. -/
inductive Occurrences (needle : List UInt8) : List UInt8 → ℕ → Prop
  | none {range : List UInt8} : ¬ needle <:+: range → Occurrences needle range 0
  | next {range : List UInt8} {k n : ℕ} : FirstAt needle range k →
      Occurrences needle (range.drop (k + needle.length)) n → Occurrences needle range (n + 1)

def CountsOccurrences (text : List UInt8) (front behind : ℕ) (str : CString) : Prop :=
  ∃ n, Occurrences str.bytes (rangeOf text front behind) n ∧
    ∃ (fuel : ℕ) (count : Int32),
      usrStrnumBtweenpoint fuel text (some front) (some behind) (some str) = .ok count ∧ count.toInt = n

def EqualUpToCase (s t : List UInt8) : Prop := s.map tolower = t.map tolower

/-! ## The conditions -/

/-- The ranges that remain, occurrence by occurrence. -/
inductive Remains (needle : List UInt8) : List UInt8 → List UInt8 → Prop
  | all {range : List UInt8} : Remains needle range range
  | next {range rest : List UInt8} {k : ℕ} : FirstAt needle range k →
      Remains needle (range.drop (k + needle.length)) rest → Remains needle range rest

/-- Each of the searches reaches its end, and so does the `int` that counts them. -/
def CountInReach (range : List UInt8) (str : CString) : Prop :=
  (∀ rest, Remains str.bytes range rest → InReach rest str) ∧
    ∀ n, Occurrences str.bytes range n → n < 2 ^ 31

/-- The length of the first string is an `int`; or the strings are different, also if the `int` that is left of
    that length is taken for it. -/
def CaseInReach (s t : CString) : Prop :=
  s.strlen < 2 ^ 31 ∨ ¬ EqualUpToCase s.bytes t.bytes ∧
    ¬ (0 ≤ (Int32.ofNat s.strlen).toInt ∧
      EqualUpToCase (s.bytes.take (Int32.ofNat s.strlen).toInt.toNat) t.bytes)

/-! ## Occurrences -/

theorem Occurrences.unique (hm : Occurrences needle range m) (hn : Occurrences needle range n) : m = n := by
  induction hm generalizing n with
  | none hnot =>
      cases hn with
      | none => rfl
      | next hk => exact absurd hk.infix hnot
  | next hk hrest ih =>
      cases hn with
      | none hnot => exact absurd hk.infix hnot
      | next hj hrest' =>
          obtain rfl := hk.unique hj
          rw [ih hrest']

theorem Searchable.next (h : Searchable text front behind str) (hk : FirstAt str.bytes (rangeOf text front behind) k) :
    Searchable text (front + k + str.strlen) behind str ∧
      rangeOf text (front + k + str.strlen) behind = (rangeOf text front behind).drop (k + str.bytes.length) := by
  have hle := hk.here.length_le
  rw [List.length_drop, h.length_rangeOf] at hle
  have hpos := h.strlen_pos
  have hordered := h.ordered
  refine ⟨⟨?_, h.inside, h.object, h.nonempty⟩, ?_⟩
  · rw [CString.strlen] at hpos ⊢
    omega
  · rw [rangeOf, rangeOf, List.drop_drop, Nat.add_assoc, CString.strlen]

/-! ## The loop -/

/-- **Counting in reach**: with enough rounds, the occurrences are counted modulo 2³². -/
theorem exists_countFrom (h : Searchable text front behind str)
    (hreach : ∀ rest, Remains str.bytes (rangeOf text front behind) rest → InReach rest str) :
    ∃ n fuel, Occurrences str.bytes (rangeOf text front behind) n ∧
      ∀ count, countFrom text (some behind) (some str) fuel (some front) count = .ok (count + Int32.ofNat n) := by
  induction hlen : behind - front using Nat.strong_induction_on generalizing front with
  | _ len ih =>
      obtain ⟨hfound, hnone⟩ := (hreach _ .all).findsFirst h
      by_cases hinfix : str.bytes <:+: rangeOf text front behind
      · obtain ⟨k, hk⟩ := exists_firstAt_of_infix hinfix
        obtain ⟨hnext, hrange⟩ := h.next hk
        have hpos := h.strlen_pos
        have hordered := hnext.ordered
        obtain ⟨n, fuel, hoccurs, hcount⟩ := ih (behind - (front + k + str.strlen)) (by omega) hnext
          (fun rest hrest => hreach rest (.next hk (hrange ▸ hrest))) rfl
        refine ⟨n + 1, fuel + 1, .next hk (hrange ▸ hoccurs), fun count => ?_⟩
        rw [countFrom, hfound k hk]
        exact (hcount (count + 1)).trans (congrArg _ (by rw [Int32.add_assoc, Int32.add_comm 1, Int32.ofNat_add]; rfl))
      · refine ⟨0, 1, .none hinfix, fun count => ?_⟩
        rw [countFrom, hnone hinfix]
        exact congrArg _ (Int32.add_zero count).symm

/-- A pattern whose length is an `int` is in reach if the search for it comes to an end. -/
theorem inReach_of_ok (h : Searchable text front behind str) (hlt : str.strlen < 2 ^ 31) {r : Option ℕ}
    (hok : usrStrBtweenpoint text (some front) (some behind) (some str) = .ok r) :
    InReach (rangeOf text front behind) str := by
  have hpos := h.strlen_pos
  have he : lastIndex str = (str.strlen - 1 : ℕ) := by
    rw [lastIndex_of_lt hpos hlt]
    omega
  have hall : str.bytes.take ((lastIndex str).toNat + 1) = str.bytes :=
    List.take_of_length_le (by rw [he, CString.strlen]; omega)
  rw [usrStrBtweenpoint_eq h] at hok
  by_cases hshort : (rangeOf text front behind).length < str.strlen
  · exact .inl hshort
  rw [if_neg hshort] at hok
  obtain ⟨r, hsearch, -⟩ := map_eq_ok_iff.1 hok
  cases r with
  | none => exact .inr (.inl (searchFrom_none hsearch))
  | some k =>
      obtain ⟨hknown, hfirst, hend⟩ := searchFrom_firstAt hpos hsearch
      exact .inr (.inr ⟨k, hknown, hfirst, (hall ▸ hfirst).here, hend⟩)

/-- **A count that comes to an end** was in reach all the way. -/
theorem inReach_of_countFrom (h : Searchable text front behind str) (hlt : str.strlen < 2 ^ 31)
    (hok : countFrom text (some behind) (some str) fuel (some front) count = .ok c)
    (hrest : Remains str.bytes (rangeOf text front behind) rest) : InReach rest str := by
  generalize hrange : rangeOf text front behind = range at hrest
  induction hrest generalizing front fuel count with
  | all =>
      subst hrange
      cases fuel with
      | zero => cases hok
      | succ fuel =>
          rw [countFrom] at hok
          cases hsearch : usrStrBtweenpoint text (some front) (some behind) (some str) with
          | error e =>
              rw [hsearch] at hok
              cases hok
          | ok r => exact inReach_of_ok h hlt hsearch
  | next hk _ ih =>
      subst hrange
      cases fuel with
      | zero => cases hok
      | succ fuel =>
          obtain ⟨hnext, hrange⟩ := h.next hk
          rw [countFrom] at hok
          cases hsearch : usrStrBtweenpoint text (some front) (some behind) (some str) with
          | error e =>
              rw [hsearch] at hok
              cases hok
          | ok r =>
              have hfound := ((inReach_of_ok h hlt hsearch).findsFirst h).1 _ hk
              rw [hfound] at hok
              exact ih hnext hok hrange

/-- **The number of occurrences** is returned if the searches are in reach, and, for a pattern whose length is an
    `int`, only then. -/
theorem countsOccurrences_of_inReach (h : Searchable text front behind str)
    (hreach : CountInReach (rangeOf text front behind) str) : CountsOccurrences text front behind str := by
  obtain ⟨n, fuel, hoccurs, hcount⟩ := exists_countFrom h hreach.1
  refine ⟨n, hoccurs, fuel, Int32.ofNat n, ?_, Int32.toInt_ofNat_of_lt (hreach.2 n hoccurs)⟩
  exact (hcount 0).trans (congrArg _ (Int32.zero_add _))

theorem CountsOccurrences.inReach (hcounts : CountsOccurrences text front behind str)
    (h : Searchable text front behind str) (hlt : str.strlen < 2 ^ 31) :
    CountInReach (rangeOf text front behind) str := by
  obtain ⟨n, hoccurs, fuel, count, hok, hcount⟩ := hcounts
  refine ⟨fun rest hrest => inReach_of_countFrom h hlt hok hrest, fun m hm => ?_⟩
  have hsmall := count.toInt_lt
  rw [hm.unique hoccurs]
  omega

/-! ## `usr_strcasecmp` -/

/-- A `char` from 0x80 on is negative. -/
theorem toInt8_cases (b : UInt8) :
    b.toNat < 128 ∧ b.toInt8.toInt = b.toNat ∨ 128 ≤ b.toNat ∧ b.toInt8.toInt = b.toNat - 256 := by
  have hcond := BitVec.toInt_eq_toNat_cond (x := b.toBitVec)
  have hto : b.toInt8.toInt = b.toBitVec.toInt := rfl
  have hlt := b.toNat_lt
  rw [UInt8.toNat_toBitVec] at hcond
  rw [hto, hcond]
  split <;> omega

theorem tolower_cases (b : UInt8) :
    (65 ≤ b.toNat ∧ b.toNat ≤ 90) ∧ (tolower b).toNat = b.toNat + 32 ∨
      ¬ (65 ≤ b.toNat ∧ b.toNat ≤ 90) ∧ (tolower b).toNat = b.toNat := by
  have hletter : 65 ≤ b ∧ b ≤ 90 ↔ 65 ≤ b.toNat ∧ b.toNat ≤ 90 := by
    rw [UInt8.le_iff_toNat_le, UInt8.le_iff_toNat_le]
    rfl
  rw [tolower]
  by_cases h : 65 ≤ b.toNat ∧ b.toNat ≤ 90
  · rw [if_pos (hletter.2 h), UInt8.toNat_add]
    exact .inl ⟨h, Nat.mod_eq_of_lt (Nat.lt_of_le_of_lt (Nat.add_le_add_right h.2 32) (by decide))⟩
  · rw [if_neg (mt hletter.1 h)]
    exact .inr ⟨h, rfl⟩

/-- Two `char`s are taken for the same exactly if they are the same letter or the same byte. -/
theorem sameLetter_iff (a b : UInt8) : sameLetter a b = true ↔ tolower a = tolower b := by
  have ha := toInt8_cases a
  have hb := toInt8_cases b
  have hlowa := tolower_cases a
  have hlowb := tolower_cases b
  have hlta := a.toNat_lt
  have hltb := b.toNat_lt
  rw [← UInt8.toNat_inj, sameLetter]
  split
  · simp only [true_iff]
    omega
  · split
    · rw [decide_eq_true_eq]
      omega
    · split
      · rw [decide_eq_true_eq]
        omega
      · simp only [Bool.false_eq_true, false_iff]
        omega

/-- **The comparison of two strings of one length.** -/
theorem compareLetters_eq {s t : List UInt8} (h : s.length = t.length) :
    compareLetters s t = 0 ↔ EqualUpToCase s t := by
  induction s generalizing t with
  | nil =>
      obtain rfl : t = [] := List.length_eq_zero_iff.1 h.symm
      simp [compareLetters, EqualUpToCase]
  | cons a s ih =>
      cases t with
      | nil => cases h
      | cons b t =>
          rw [compareLetters, EqualUpToCase, List.map_cons, List.map_cons, List.cons_eq_cons, ← sameLetter_iff]
          by_cases hletter : sameLetter a b = true
          · rw [if_pos hletter, ih (Nat.succ.inj h)]
            exact (and_iff_right hletter).symm
          · rw [if_neg hletter]
            exact iff_of_false (by decide) fun hboth => hletter hboth.1

theorem EqualUpToCase.length {s t : List UInt8} (h : EqualUpToCase s t) : s.length = t.length := by
  have hlen := congrArg List.length h
  rwa [List.length_map, List.length_map] at hlen

/-- What is compared when the lengths seem to agree. -/
theorem usrStrcasecmp_eq_zero_iff (ht : t.strlen < 2 ^ 63) :
    usrStrcasecmp s t = 0 ↔ 0 ≤ (Int32.ofNat s.strlen).toInt ∧
      EqualUpToCase (s.bytes.take (Int32.ofNat s.strlen).toInt.toNat) t.bytes := by
  have hle : (Int32.ofNat s.strlen).toInt ≤ s.strlen := by
    rw [Int32.toInt_ofNat']
    exact bmod_le_self _ _
  have hge := (Int32.ofNat s.strlen).le_toInt
  have hlt := (Int32.ofNat s.strlen).toInt_lt
  have hlen : (s.bytes.take (Int32.ofNat s.strlen).toInt.toNat).length = (Int32.ofNat s.strlen).toInt.toNat := by
    rw [CString.strlen] at hle
    rw [List.length_take, CString.strlen]
    omega
  rw [usrStrcasecmp]
  by_cases hsize : sizeT (Int32.ofNat s.strlen).toInt = t.strlen
  · have hnonneg : 0 ≤ (Int32.ofNat s.strlen).toInt := by
      rw [sizeT] at hsize
      omega
    have hsame : (Int32.ofNat s.strlen).toInt.toNat = t.strlen := by
      rw [sizeT] at hsize
      omega
    have hshort : ¬ (Int32.ofNat s.strlen < Int32.ofNat s.strlen ∨ Int32.ofNat t.strlen < Int32.ofNat s.strlen) := by
      rw [Int32.lt_iff_toInt_lt, Int32.lt_iff_toInt_lt, Int32.toInt_ofNat_of_lt (n := t.strlen) (by omega)]
      omega
    have hall : t.bytes.take (Int32.ofNat s.strlen).toInt.toNat = t.bytes :=
      List.take_of_length_le (by rw [hsame, CString.strlen])
    simp only [ne_eq, hsize, not_true_eq_false, if_false, usrStrncasecmp, if_neg hshort, hall, hnonneg, true_and]
    exact compareLetters_eq (by rw [hlen, hsame, CString.strlen])
  · simp only [ne_eq, hsize, not_false_eq_true, if_true]
    refine iff_of_false (by decide) ?_
    rintro ⟨hnonneg, hequal⟩
    have hsame : (Int32.ofNat s.strlen).toInt.toNat = t.strlen := hlen.symm.trans hequal.length
    refine hsize ?_
    rw [sizeT, ← hsame]
    omega

/-- **Equal up to case** is what it returns 0 for exactly as far as its `int` reaches. -/
theorem usrStrcasecmp_iff (ht : t.strlen < 2 ^ 63) :
    (usrStrcasecmp s t = 0 ↔ EqualUpToCase s.bytes t.bytes) ↔ CaseInReach s t := by
  rw [usrStrcasecmp_eq_zero_iff ht, CaseInReach]
  by_cases hlt : s.strlen < 2 ^ 31
  · have hlen := Int32.toInt_ofNat_of_lt hlt
    have hall : s.bytes.take (s.strlen : ℤ).toNat = s.bytes := List.take_of_length_le le_rfl
    refine iff_of_true ?_ (.inl hlt)
    rw [hlen, hall]
    exact and_iff_right (Int.natCast_nonneg _)
  · have hsmall := (Int32.ofNat s.strlen).toInt_lt
    have hboth : ¬ ((0 ≤ (Int32.ofNat s.strlen).toInt ∧
        EqualUpToCase (s.bytes.take (Int32.ofNat s.strlen).toInt.toNat) t.bytes) ∧
          EqualUpToCase s.bytes t.bytes) := by
      rintro ⟨⟨hnonneg, hcut⟩, hequal⟩
      have hcutlen := hcut.length
      have hlen := hequal.length
      rw [List.length_take] at hcutlen
      rw [CString.strlen] at hlt
      omega
    tauto

/-! ## The three -/

/-- **The substring functions** do what they are there for exactly as far as their `int`s reach; of the number of
    occurrences this is said for patterns whose length is an `int`, and for others that it is enough. -/
theorem substrings_iff (h : Searchable text front behind str) (ht : t.strlen < 2 ^ 63) :
    (FindsFirst text front behind str ↔ InReach (rangeOf text front behind) str) ∧
      (CountInReach (rangeOf text front behind) str → CountsOccurrences text front behind str) ∧
      (str.strlen < 2 ^ 31 → CountsOccurrences text front behind str →
        CountInReach (rangeOf text front behind) str) ∧
      ((usrStrcasecmp s t = 0 ↔ EqualUpToCase s.bytes t.bytes) ↔ CaseInReach s t) :=
  ⟨findsFirst_iff h, countsOccurrences_of_inReach h, fun hlt hcounts => hcounts.inReach h hlt,
    usrStrcasecmp_iff ht⟩

/-- A pattern that overlaps itself. -/
theorem substrings_aaa : Searchable [97, 97, 97] 0 3 ⟨[97, 97], by decide⟩ ∧
    (FindsFirst [97, 97, 97] 0 3 ⟨[97, 97], by decide⟩ ↔
      InReach (rangeOf [97, 97, 97] 0 3) ⟨[97, 97], by decide⟩) ∧
    (CountInReach (rangeOf [97, 97, 97] 0 3) ⟨[97, 97], by decide⟩ →
      CountsOccurrences [97, 97, 97] 0 3 ⟨[97, 97], by decide⟩) ∧
    ((⟨[97, 97], by decide⟩ : CString).strlen < 2 ^ 31 →
      CountsOccurrences [97, 97, 97] 0 3 ⟨[97, 97], by decide⟩ →
        CountInReach (rangeOf [97, 97, 97] 0 3) ⟨[97, 97], by decide⟩) ∧
    ((usrStrcasecmp ⟨[72, 105], by decide⟩ ⟨[104, 73], by decide⟩ = 0 ↔ EqualUpToCase [72, 105] [104, 73]) ↔
      CaseInReach ⟨[72, 105], by decide⟩ ⟨[104, 73], by decide⟩) :=
  have h : Searchable [97, 97, 97] 0 3 ⟨[97, 97], by decide⟩ := ⟨by decide, by decide, by decide, by decide⟩
  ⟨h, substrings_iff h (by decide)⟩

/-- A string of 2³¹ bytes is not equal to itself, and what is not in a text of that length is not found to be
    missing. -/
theorem ints_too_short :
    (∃ s : CString, s.strlen = 2 ^ 31 ∧ EqualUpToCase s.bytes s.bytes ∧ usrStrcasecmp s s ≠ 0) ∧
      ¬ FindsFirst (List.replicate (2 ^ 31) 97) 0 (2 ^ 31) ⟨[98], by decide⟩ := by
  have hbyte {b : UInt8} (h : b ∈ List.replicate (2 ^ 31) 97) : b = 97 := List.eq_of_mem_replicate h
  refine ⟨⟨⟨List.replicate (2 ^ 31) 97, fun h => absurd (hbyte h) (by decide)⟩, List.length_replicate, rfl, ?_⟩, ?_⟩
  · intro hzero
    have hreach := (usrStrcasecmp_iff (by rw [CString.strlen, List.length_replicate]; decide)).1 (iff_of_true hzero rfl)
    rcases hreach with hlt | ⟨hother, -⟩
    · rw [CString.strlen, List.length_replicate] at hlt
      exact absurd hlt (by decide)
    · exact hother rfl
  · have hsearchable : Searchable (List.replicate (2 ^ 31) 97) 0 (2 ^ 31) ⟨[98], by decide⟩ :=
      ⟨by decide, List.length_replicate.ge, by rw [List.length_replicate]; decide, by decide⟩
    rw [findsFirst_iff hsearchable]
    rintro (hshort | hfits | ⟨k, -, -, hhere, -⟩)
    · rw [hsearchable.length_rangeOf] at hshort
      exact absurd hshort (by decide)
    · rw [hsearchable.length_rangeOf] at hfits
      exact absurd hfits (by decide)
    · have hmem : (98 : UInt8) ∈ List.replicate (2 ^ 31) 97 :=
        List.mem_of_mem_take (List.mem_of_mem_drop (List.mem_of_mem_drop (hhere.subset List.mem_cons_self)))
      exact absurd (hbyte hmem) (by decide)

end SmartPlat
