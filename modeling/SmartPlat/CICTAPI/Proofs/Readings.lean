import SmartPlat.CICTAPI.Cictapi

set_option autoImplicit false

/-! # What the scanner does with a payload

The rounds of the loop go through the fields of the text two by two, a tag and its value. A tag above 10 leaves the
index of the one before, and a tag that names nothing still has a remainder. -/

namespace SmartPlat.CICTAPI

open SmartPlat.Lib SmartPlat.MqttAPI

variable {electpar : Electpar} {msgBuf : CString} {s t v g : List UInt8} {c : Cursor} {i j : Fin 4} {n : ℤ}
  {k m : ℕ} {pairs : List (List UInt8 × List UInt8)}

/-! ## One pair -/

/-- What a round does with a tag and a value. -/
def pairStep (electpar : Electpar) (i : Fin 4) (tag value : List UInt8) : Except Fault (Electpar × Fin 4) := do
  let time ← sprintf 23 (.ofBuffer tag)
  let (electpar, i) := selectIndex electpar i (atoi time.str.bytes)
  let electpar ← putValue electpar i ((atoi time.str.bytes).tmod 3) (.ofBuffer value)
  return (electpar, i)

theorem strstr_here (s : List UInt8) : strstr [44] (44 :: s) = some (44 :: s) := strstr_comma List.not_mem_nil s

theorem round_end (electpar : Electpar) (i : Fin 4) (hs : 44 ∉ s) : round ⟨44 :: s, electpar, i⟩ = .ok none := by
  simp only [round, strstr_here, List.tail_cons, strstr_comma_none.2 hs]

/-- A tag without a value is a fault. -/
theorem round_tag (electpar : Electpar) (i : Fin 4) (ht : 44 ∉ t) (hs : 44 ∉ s) : ∃ e, round ⟨44 :: (t ++ 44 :: s), electpar, i⟩ = .error e := by
  simp only [round, strstr_here, List.tail_cons, strstr_comma ht, fieldAt_eq, strstr_comma_none.2 hs]
  cases sprintf 23 (.ofBuffer t) with
  | error e => exact ⟨e, rfl⟩
  | ok time => exact ⟨.badAccess, rfl⟩

theorem round_pair (electpar : Electpar) (i : Fin 4) (ht : 44 ∉ t) (hv : 44 ∉ v) (s : List UInt8) :
    round ⟨44 :: (t ++ 44 :: (v ++ 44 :: s)), electpar, i⟩ =
      (pairStep electpar i t v).map fun r => some ⟨44 :: s, r.1, r.2⟩ := by
  simp only [round, pairStep, strstr_here, List.tail_cons, strstr_comma ht, strstr_comma hv, fieldAt_eq]
  cases sprintf 23 (.ofBuffer t) with
  | error e => rfl
  | ok time =>
      simp only [bind, Except.bind]
      generalize putValue _ _ _ _ = put
      cases put with
      | error e => rfl
      | ok electpar => rfl

/-! ## What a pair writes -/

theorem cells_update (electpar : Electpar) (i : Fin 4) (e : VolmeterParameter) :
    Electpar.cells (Function.update electpar i e) = Function.update electpar.cells i (reading e) := by
  funext j
  by_cases hj : j = i
  · rw [hj, Electpar.cells, Function.update_self, Function.update_self]
  · rw [Electpar.cells, Function.update_of_ne hj, Function.update_of_ne hj, Electpar.cells]

theorem put_eq {cells : Cells} {i : Fin 4} {q : Quantity} {value : CString} {f : Quantity → CString}
    (hsame : f q = value) (hother : ∀ q', q' ≠ q → f q' = cells i q') :
    Function.update cells i f = cells.put i q value := by
  funext j q'
  rw [Cells.put]
  by_cases hj : j = i
  · rw [hj, Function.update_self]
    by_cases hq : q' = q
    · rw [hq, hsame, if_pos ⟨rfl, rfl⟩]
    · rw [hother q' hq, if_neg fun h => hq h.2]
  · rw [Function.update_of_ne hj, if_neg fun h => hj h.1]

theorem circuitOf_eq (hle : 3 * (j : ℕ) + 1 ≤ n) (hge : n ≤ 3 * (j : ℕ) + 3) : circuitOf n = j := by
  have hj := j.isLt
  refine Fin.ext ?_
  change ((n - 1) / 3).toNat % 4 = j
  omega

theorem selectIndex_eq (electpar : Electpar) (i : Fin 4) (n : ℤ) :
    (selectIndex electpar i n).2 = indexFor i n ∧ (selectIndex electpar i n).1.cells = electpar.cells := by
  have hselect (j : Fin 4) :
      Electpar.cells (Function.update electpar j { electpar j with deviceID := j }) = electpar.cells := by
    rw [cells_update]
    exact Function.update_eq_self j electpar.cells
  simp only [selectIndex, indexFor]
  by_cases h₀ : n > 0 ∧ n < 4
  · rw [if_pos h₀, if_pos (by omega)]
    exact ⟨(circuitOf_eq (j := 0) (by omega) (by omega)).symm, hselect 0⟩
  rw [if_neg h₀]
  by_cases h₁ : n > 3 ∧ n < 7
  · rw [if_pos h₁, if_pos (by omega)]
    exact ⟨(circuitOf_eq (j := 1) (by omega) (by omega)).symm, hselect 1⟩
  rw [if_neg h₁]
  by_cases h₂ : n > 6 ∧ n < 10
  · rw [if_pos h₂, if_pos (by omega)]
    exact ⟨(circuitOf_eq (j := 2) (by omega) (by omega)).symm, hselect 2⟩
  rw [if_neg h₂]
  by_cases h₃ : n > 9 ∧ n < 11
  · rw [if_pos h₃, if_pos (by omega)]
    exact ⟨(circuitOf_eq (j := 3) (by omega) (by omega)).symm, hselect 3⟩
  · rw [if_neg h₃, if_neg (by omega)]
    exact ⟨rfl, rfl⟩

theorem tmod_cases (n : ℤ) : 0 ≤ n.tmod 3 ∧ n.tmod 3 = n % 3 ∨ n.tmod 3 < 0 ∧ n < 0 := by
  have htmod := Int.tmod_eq_emod (a := n) (b := 3)
  split at htmod <;> omega

/-- What the values of a pair come to. -/
def written (cells : Cells) (i : Fin 4) (n : ℤ) (value : CString) : Cells :=
  if 0 ≤ n.tmod 3 then cells.put i (quantityOf n) value else cells

theorem putValue_spec (electpar : Electpar) (i : Fin 4) {value : CString} (h : 0 ≤ n.tmod 3 → value.strlen < 12) :
    ∃ electpar', putValue electpar i (n.tmod 3) value = .ok electpar' ∧
      electpar'.cells = written electpar.cells i n value := by
  rw [putValue, written]
  rcases tmod_cases n with ⟨hnonneg, hsame⟩ | ⟨hneg, -⟩
  · have hfits : value.strlen ≤ 11 := Nat.le_of_lt_succ (h hnonneg)
    have hwrite : sprintf 11 value = .ok ⟨value, hfits⟩ := dif_pos hfits
    rw [if_pos hnonneg, hwrite, quantityOf]
    by_cases h₀ : n.tmod 3 = 0
    · rw [if_pos h₀, if_neg (by omega), if_neg (by omega)]
      refine ⟨_, rfl, (cells_update _ _ _).trans (put_eq rfl ?_)⟩
      rintro (- | - | -) hq
      · rfl
      · rfl
      · exact absurd rfl hq
    rw [if_neg h₀]
    by_cases h₁ : n.tmod 3 = 1
    · rw [if_pos h₁, if_pos (by omega)]
      refine ⟨_, rfl, (cells_update _ _ _).trans (put_eq rfl ?_)⟩
      rintro (- | - | -) hq
      · exact absurd rfl hq
      · rfl
      · rfl
    · rw [if_neg h₁, if_pos (by omega), if_neg (by omega), if_pos (by omega)]
      refine ⟨_, rfl, (cells_update _ _ _).trans (put_eq rfl ?_)⟩
      rintro (- | - | -) hq
      · rfl
      · exact absurd rfl hq
      · rfl
  · rw [if_neg (by omega), if_neg (by omega), if_neg (by omega), if_neg (by omega)]
    exact ⟨electpar, rfl, rfl⟩

theorem length_of_putValue {value : CString} {electpar' : Electpar}
    (h : putValue electpar i (n.tmod 3) value = .ok electpar') : 0 ≤ n.tmod 3 → value.strlen < 12 := by
  intro hnonneg
  have hmod := tmod_cases n
  by_contra hlong
  have hfull : sprintf 11 value = .error .badAccess := dif_neg fun hle => hlong (Nat.lt_succ_of_le hle)
  rw [putValue, hfull] at h
  by_cases h₀ : n.tmod 3 = 0
  · rw [if_pos h₀] at h
    cases h
  rw [if_neg h₀] at h
  by_cases h₁ : n.tmod 3 = 1
  · rw [if_pos h₁] at h
    cases h
  · rw [if_neg h₁, if_pos (by omega)] at h
    cases h

theorem put_eq_self_iff {cells : Cells} {q : Quantity} {value : CString} :
    cells.put i q value = cells ↔ cells i q = value := by
  constructor
  · intro h
    have hat := congrFun (congrFun h i) q
    rw [Cells.put, if_pos ⟨rfl, rfl⟩] at hat
    exact hat.symm
  · intro h
    funext j q'
    rw [Cells.put]
    split
    · next hjq => rw [hjq.1, hjq.2, h]
    · rfl

theorem put_eq_put_iff {cells : Cells} {q : Quantity} {value : CString} (hij : i ≠ j) :
    cells.put i q value = cells.put j q value ↔ cells i q = value ∧ cells j q = value := by
  constructor
  · intro h
    have hi := congrFun (congrFun h i) q
    have hj := congrFun (congrFun h j) q
    rw [Cells.put, if_pos ⟨rfl, rfl⟩, Cells.put, if_neg fun h => hij h.1] at hi
    rw [Cells.put, if_neg fun h => hij h.1.symm, Cells.put, if_pos ⟨rfl, rfl⟩] at hj
    exact ⟨hi.symm, hj⟩
  · intro ⟨hi, hj⟩
    rw [put_eq_self_iff.2 hi, put_eq_self_iff.2 hj]

/-- **What a pair writes is what it measures** exactly if it is in place. -/
theorem written_eq_iff (cells : Cells) (i : Fin 4) (tag value : List UInt8) :
    written cells (indexFor i (atoi tag)) (atoi tag) (.ofBuffer value) = measured cells (tag, value) ↔
      InPlace cells i (atoi tag) (.ofBuffer value) := by
  have hmod := tmod_cases (atoi tag)
  simp only [measured, written, indexFor, InPlace]
  by_cases hlow : 1 ≤ atoi tag ∧ atoi tag ≤ 10
  · rw [if_pos hlow, if_pos (by omega), if_pos (by omega)]
    exact iff_of_true rfl (.inl hlow)
  rw [if_neg hlow]
  by_cases hhigh : 1 ≤ atoi tag ∧ atoi tag ≤ 12
  · have hlast : circuitOf (atoi tag) = 3 := circuitOf_eq (by omega) (by omega)
    rw [if_pos (by omega), if_pos hhigh, hlast]
    by_cases hi : i = 3
    · exact iff_of_true (by rw [hi]) (.inr (.inl ⟨by omega, by omega, .inl hi⟩))
    · rw [put_eq_put_iff hi]
      constructor
      · intro hheld
        exact .inr (.inl ⟨by omega, by omega, .inr hheld⟩)
      · rintro (h | ⟨-, -, hi' | hheld⟩ | ⟨h, -⟩)
        · exact absurd h hlow
        · exact absurd hi' hi
        · exact hheld
        · exact absurd hhigh h
  · rw [if_neg hhigh]
    by_cases hneg : 0 ≤ (atoi tag).tmod 3
    · rw [if_pos hneg, put_eq_self_iff]
      constructor
      · intro hheld
        exact .inr (.inr ⟨hhigh, .inr hheld⟩)
      · rintro (h | ⟨h, h', -⟩ | ⟨-, h | hheld⟩)
        · exact absurd h hlow
        · exact absurd ⟨by omega, h'⟩ hhigh
        · omega
        · exact hheld
    · rw [if_neg hneg]
      exact iff_of_true rfl (.inr (.inr ⟨hhigh, .inl (by omega)⟩))

/-! ## One round -/

/-- **A pair** whose texts fit is written to the cell for its index and remainder. -/
theorem pairStep_spec (electpar : Electpar) (i : Fin 4) (ht : 0 ∉ t) (hv : 0 ∉ v) (hfits : t.length < 24)
    (hcell : 0 ≤ (atoi t).tmod 3 → v.length < 12) :
    ∃ electpar', pairStep electpar i t v = .ok (electpar', indexFor i (atoi t)) ∧
      electpar'.cells = written electpar.cells (indexFor i (atoi t)) (atoi t) (.ofBuffer v) := by
  have hsize : (CString.ofBuffer t).strlen ≤ 23 := by
    rw [strlen_ofBuffer ht]
    omega
  have hwrite : sprintf 23 (.ofBuffer t) = .ok ⟨.ofBuffer t, hsize⟩ := dif_pos hsize
  obtain ⟨hindex, hcells⟩ := selectIndex_eq electpar i (atoi t)
  have hfitting : 0 ≤ (atoi t).tmod 3 → (CString.ofBuffer v).strlen < 12 := by rwa [strlen_ofBuffer hv]
  obtain ⟨electpar', hput, hwritten⟩ := putValue_spec (n := atoi t) (selectIndex electpar i (atoi t)).1
    (indexFor i (atoi t)) hfitting
  rw [hcells] at hwritten
  refine ⟨electpar', ?_, hwritten⟩
  simp only [pairStep, hwrite, bind, Except.bind, CString.bytes_ofBuffer ht, hindex, hput]
  rfl

/-- A pair that is taken has texts that fit. -/
theorem length_of_pairStep {r : Electpar × Fin 4} (ht : 0 ∉ t) (hv : 0 ∉ v) (h : pairStep electpar i t v = .ok r) :
    t.length < 24 ∧ (0 ≤ (atoi t).tmod 3 → v.length < 12) := by
  rw [pairStep] at h
  obtain ⟨time, hwrite, h⟩ := bind_eq_ok_iff.1 h
  obtain ⟨electpar', hput, -⟩ := bind_eq_ok_iff.1 h
  have htime : time.str = .ofBuffer t := sprintf_eq_ok_iff.1 hwrite
  have hfits := time.fits
  rw [htime, strlen_ofBuffer ht] at hfits
  rw [htime, CString.bytes_ofBuffer ht] at hput
  have hcell := length_of_putValue hput
  rw [strlen_ofBuffer hv] at hcell
  exact ⟨Nat.lt_succ_of_le hfits, hcell⟩

end SmartPlat.CICTAPI
