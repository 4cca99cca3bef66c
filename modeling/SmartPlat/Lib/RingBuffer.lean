import Mathlib.Data.List.Basic
import Mathlib.Data.Set.Disjoint
import Mathlib.Tactic.Common
import Mathlib.Data.Set.BooleanAlgebra
import Mathlib.Order.CompletePartialOrder

set_option autoImplicit false

/-! # Circular byte buffers

A fixed buffer read and written as a ring: positions run from `0` to the capacity, a run of cells
that reaches the last cell goes on at cell `0`. A *position* may also be the capacity itself, which
names the same place as `0`; code that moves a pointer with `if p + n > end` rather than a modulus
leaves it there.

Everything is stated for one trip around the ring (`len ≤ cap`), over lists of an arbitrary element
type. The two facts users need are `ringSlice_ringWrite` (a write behind the last unread cell leaves
the unread cells alone and appends the written ones) and `ringSlice_add` (a slice is read piecewise,
moving on by `ringAdvance`). -/

namespace SmartPlat.Lib

variable {α : Type*}

/-! ## Linear copies -/

/-- Copy `data` over the cells of `buf` from index `off` on. -/
def overwrite (buf : List α) (off : ℕ) (data : List α) : List α :=
  buf.take off ++ data ++ buf.drop (off + data.length)

theorem length_overwrite (buf : List α) (off : ℕ) (data : List α)
    (h : off + data.length ≤ buf.length) : (overwrite buf off data).length = buf.length := by
  simp only [overwrite, List.length_append, List.length_take, List.length_drop]
  omega

theorem getElem?_overwrite (buf : List α) (off : ℕ) (data : List α) (i : ℕ)
    (h : off + data.length ≤ buf.length) :
    (overwrite buf off data)[i]?
      = if off ≤ i ∧ i < off + data.length then data[i - off]? else buf[i]? := by
  have hlen : (buf.take off).length = off := by rw [List.length_take]; omega
  unfold overwrite
  rw [List.append_assoc]
  rcases Nat.lt_or_ge i off with hi | hi
  · rw [List.getElem?_append_left (by omega), List.getElem?_take_of_lt hi, if_neg (by omega)]
  · rw [List.getElem?_append_right (by omega), hlen]
    rcases Nat.lt_or_ge (i - off) data.length with hd | hd
    · rw [List.getElem?_append_left hd, if_pos (by omega)]
    · rw [List.getElem?_append_right hd, List.getElem?_drop, if_neg (by omega)]
      congr 1
      omega

/-! ## Positions -/

/-- Cells from position `r` forward to position `w`. -/
def ringDist (cap r w : ℕ) : ℕ :=
  if r ≤ w then w - r else cap - r + w

/-- Position `n` cells after `p`; stays at the capacity when it lands exactly there. -/
def ringAdvance (cap p n : ℕ) : ℕ :=
  if cap < p + n then p + n - cap else p + n

theorem ringDist_cases (cap r w : ℕ) :
    (r ≤ w ∧ ringDist cap r w = w - r) ∨ (w < r ∧ ringDist cap r w = cap - r + w) := by
  unfold ringDist; split <;> omega

theorem ringAdvance_cases (cap p n : ℕ) :
    (cap < p + n ∧ ringAdvance cap p n = p + n - cap) ∨
      (p + n ≤ cap ∧ ringAdvance cap p n = p + n) := by
  unfold ringAdvance; split <;> omega

theorem ringAdvance_le {cap p n : ℕ} (hp : p ≤ cap) (hn : n ≤ cap) :
    ringAdvance cap p n ≤ cap := by
  unfold ringAdvance; split <;> omega

theorem ringAdvance_zero {cap p : ℕ} (hp : p ≤ cap) : ringAdvance cap p 0 = p := by
  unfold ringAdvance; split <;> omega

theorem ringAdvance_add {cap p a b : ℕ} (hp : p ≤ cap) (hab : a + b ≤ cap) :
    ringAdvance cap (ringAdvance cap p a) b = ringAdvance cap p (a + b) := by
  unfold ringAdvance; split <;> split <;> split <;> omega

theorem ringDist_self (cap r : ℕ) : ringDist cap r r = 0 := by
  simp [ringDist]

/-- Moving the far end on by `n` lengthens the distance by `n`, unless that fills the ring exactly:
    then the two ends meet and the distance reads as zero. -/
theorem ringDist_mod {cap r w n : ℕ} (hr : r ≤ cap) (hw : w < cap) (hn : n ≤ cap)
    (h : ringDist cap r w + n ≤ cap) :
    ringDist cap r ((w + n) % cap)
      = if ringDist cap r w + n = cap then 0 else ringDist cap r w + n := by
  have hmod : (w + n) % cap = if w + n < cap then w + n else w + n - cap := by
    split
    · next hlt => exact Nat.mod_eq_of_lt hlt
    · next hge => rw [Nat.mod_eq_sub_mod (by omega), Nat.mod_eq_of_lt (by omega)]
  have h1 := ringDist_cases cap r w
  have h2 := ringDist_cases cap r ((w + n) % cap)
  split at hmod <;> split <;> omega

/-! ## Slices -/

/-- `len` cells from position `start` on, going on at cell `0` after the last one. -/
def ringSlice (buf : List α) (start len : ℕ) : List α :=
  (buf.drop start ++ buf).take len

theorem length_ringSlice (buf : List α) (start : ℕ) {len : ℕ} (hl : len ≤ buf.length) :
    (ringSlice buf start len).length = len := by
  simp only [ringSlice, List.length_take, List.length_append, List.length_drop]
  omega

theorem getElem?_ringSlice (buf : List α) {start len k : ℕ} (hs : start ≤ buf.length)
    (hk : k < len) :
    (ringSlice buf start len)[k]?
      = if start + k < buf.length then buf[start + k]? else buf[start + k - buf.length]? := by
  unfold ringSlice
  rw [List.getElem?_take_of_lt hk]
  rcases Nat.lt_or_ge (start + k) buf.length with hlt | hge
  · rw [List.getElem?_append_left (by rw [List.length_drop]; omega), List.getElem?_drop,
      if_pos hlt]
  · rw [List.getElem?_append_right (by rw [List.length_drop]; omega), List.length_drop,
      if_neg (by omega)]
    congr 1
    omega

theorem ringSlice_zero (buf : List α) (start : ℕ) : ringSlice buf start 0 = [] := by
  simp [ringSlice]

theorem take_ringSlice (buf : List α) {start m n : ℕ} (h : m ≤ n) :
    (ringSlice buf start n).take m = ringSlice buf start m := by
  rw [ringSlice, ringSlice, List.take_take, Nat.min_eq_left h]

/-- A slice is read piecewise. -/
theorem ringSlice_add (buf : List α) {start a b : ℕ} (hs : start ≤ buf.length)
    (hab : a + b ≤ buf.length) :
    ringSlice buf start (a + b)
      = ringSlice buf start a ++ ringSlice buf (ringAdvance buf.length start a) b := by
  have ha : (ringSlice buf start a).length = a := length_ringSlice buf start (by omega)
  have hadv : ringAdvance buf.length start a ≤ buf.length := ringAdvance_le hs (by omega)
  have hb : (ringSlice buf (ringAdvance buf.length start a) b).length = b :=
    length_ringSlice buf _ (by omega)
  apply List.ext_getElem?
  intro k
  rcases Nat.lt_or_ge k a with hk | hk
  · rw [List.getElem?_append_left (by omega), getElem?_ringSlice buf hs (by omega),
      getElem?_ringSlice buf hs hk]
  · rw [List.getElem?_append_right (by omega), ha]
    rcases Nat.lt_or_ge k (a + b) with hkb | hkb
    · rw [getElem?_ringSlice buf hs hkb, getElem?_ringSlice buf hadv (by omega)]
      unfold ringAdvance
      split <;> split <;> split <;> first | omega | (congr 1; omega)
    · rw [List.getElem?_eq_none (by rw [length_ringSlice buf start hab]; omega),
        List.getElem?_eq_none (by omega)]

theorem drop_ringSlice (buf : List α) {start a n : ℕ} (hs : start ≤ buf.length) (ha : a ≤ n)
    (hn : n ≤ buf.length) :
    (ringSlice buf start n).drop a = ringSlice buf (ringAdvance buf.length start a) (n - a) := by
  have hlen : (ringSlice buf start a).length = a := length_ringSlice buf start (by omega)
  obtain ⟨b, rfl⟩ := Nat.exists_eq_add_of_le ha
  rw [ringSlice_add buf hs hn, List.drop_append, hlen, Nat.sub_self, List.drop_zero,
    List.drop_eq_nil_of_le (by omega), List.nil_append, Nat.add_sub_cancel_left]

/-- A slice in two linear copies, the way a `memcpy` reader takes it. -/
theorem ringSlice_eq_copies (buf : List α) (start len : ℕ) :
    ringSlice buf start len
      = if len ≤ buf.length - start then (buf.drop start).take len
        else (buf.drop start).take (buf.length - start)
          ++ buf.take (len - (buf.length - start)) := by
  unfold ringSlice
  rw [List.take_append, List.length_drop]
  split
  · next h => rw [Nat.sub_eq_zero_of_le h, List.take_zero, List.append_nil]
  · next h =>
      congr 1
      rw [List.take_of_length_le (by rw [List.length_drop]; omega),
        List.take_of_length_le (by rw [List.length_drop])]

/-! ## Writes -/

/-- Write `data` from cell `w` on, going on at cell `0` after the last one. -/
def ringWrite (buf : List α) (w : ℕ) (data : List α) : List α :=
  if w + data.length ≤ buf.length then overwrite buf w data
  else overwrite (overwrite buf w (data.take (buf.length - w))) 0 (data.drop (buf.length - w))

theorem length_ringWrite (buf : List α) {w : ℕ} (data : List α) (hw : w ≤ buf.length)
    (hd : data.length ≤ buf.length) : (ringWrite buf w data).length = buf.length := by
  unfold ringWrite
  split
  · next h => exact length_overwrite buf w data h
  · next h =>
      have h1 : (overwrite buf w (data.take (buf.length - w))).length = buf.length :=
        length_overwrite _ _ _ (by rw [List.length_take]; omega)
      rw [length_overwrite _ _ _ (by rw [List.length_drop, h1]; omega), h1]

/-- Cell `i` after a write, by its distance from the write position. -/
theorem getElem?_ringWrite (buf : List α) {w : ℕ} (data : List α) {i : ℕ} (hw : w < buf.length)
    (hd : data.length ≤ buf.length) (hi : i < buf.length) :
    (ringWrite buf w data)[i]?
      = if ringDist buf.length w i < data.length then data[ringDist buf.length w i]?
        else buf[i]? := by
  unfold ringWrite
  split
  · next h =>
      rw [getElem?_overwrite buf w data i h]
      unfold ringDist
      split <;> split <;> split <;> first | rfl | omega
  · next h =>
      have h1 : (overwrite buf w (data.take (buf.length - w))).length = buf.length :=
        length_overwrite _ _ _ (by rw [List.length_take]; omega)
      rw [getElem?_overwrite _ _ _ _ (by rw [List.length_drop, h1]; omega),
        getElem?_overwrite _ _ _ _ (by rw [List.length_take]; omega), List.length_drop,
        List.length_take, List.getElem?_drop]
      rcases Nat.lt_or_ge i w with hiw | hiw
      · have hdist : ringDist buf.length w i = buf.length - w + i := by
          rw [ringDist, if_neg (by omega)]
        rw [hdist, if_neg (c := w ≤ i ∧ _) (by omega)]
        split
        · next hin => rw [if_pos (by omega), Nat.sub_zero]
        · next hout => rw [if_neg (by omega)]
      · have hdist : ringDist buf.length w i = i - w := by rw [ringDist, if_pos hiw]
        rw [hdist, if_neg (by omega), if_pos (by omega), if_pos (by omega),
          List.getElem?_take_of_lt (by omega)]

/-- A write right behind `u` unread cells leaves them alone and appends the written ones. -/
theorem ringSlice_ringWrite (buf : List α) {r w : ℕ} (data : List α) (hr : r ≤ buf.length)
    (hw : w < buf.length) (h : ringDist buf.length r w + data.length ≤ buf.length) :
    ringSlice (ringWrite buf w data) r (ringDist buf.length r w + data.length)
      = ringSlice buf r (ringDist buf.length r w) ++ data := by
  have hlen := length_ringWrite buf (w := w) data (by omega) (by omega)
  have hu : (ringSlice buf r (ringDist buf.length r w)).length = ringDist buf.length r w :=
    length_ringSlice buf r (by omega)
  apply List.ext_getElem?
  intro k
  rcases Nat.lt_or_ge k (ringDist buf.length r w + data.length) with hk | hk
  · rw [getElem?_ringSlice _ (by omega) hk, hlen]
    have hcell : ∀ i, i < buf.length → (i = r + k ∨ i + buf.length = r + k) →
        (ringWrite buf w data)[i]?
          = (ringSlice buf r (ringDist buf.length r w) ++ data)[k]? := by
      intro i hi hik
      rw [getElem?_ringWrite buf data hw (by omega) hi]
      rcases Nat.lt_or_ge k (ringDist buf.length r w) with hku | hku
      · have hfar : ¬ ringDist buf.length w i < data.length := by
          have h1 := ringDist_cases buf.length r w
          have h2 := ringDist_cases buf.length w i
          omega
        rw [List.getElem?_append_left (by omega), getElem?_ringSlice buf hr hku, if_neg hfar]
        rcases hik with rfl | hik
        · rw [if_pos hi]
        · rw [if_neg (by omega)]; congr 1; omega
      · have hnear : ringDist buf.length w i = k - ringDist buf.length r w := by
          unfold ringDist at *
          split at hku <;> split <;> omega
        rw [List.getElem?_append_right (by omega), hu, hnear, if_pos (by omega)]
    split
    · next hlt => exact hcell _ hlt (Or.inl rfl)
    · next hge => exact hcell _ (by omega) (Or.inr (by omega))
  · rw [List.getElem?_eq_none (by rw [length_ringSlice _ r (by omega)]; omega),
      List.getElem?_eq_none (by rw [List.length_append]; omega)]

/-! ## Spans

The cells a run of bytes occupies, as a set, so that two runs can be said to meet or not without
going through where either of them wraps. -/

def ringCells (cap start len : ℕ) : Set ℕ := {c | ∃ k < len, c = (start + k) % cap}

variable {cap : ℕ}

theorem mem_ringCells {start len c : ℕ} (hcap : 0 < cap) (hs : start ≤ cap) (hl : len ≤ cap) :
    c ∈ ringCells cap start len ↔ c < cap ∧ ringDist cap start c < len := by
  constructor
  · rintro ⟨k, hk, rfl⟩
    refine ⟨Nat.mod_lt _ hcap, ?_⟩
    have h := ringDist_cases cap start ((start + k) % cap)
    rcases Nat.lt_or_ge (start + k) cap with hlt | hge
    · rw [Nat.mod_eq_of_lt hlt] at h ⊢
      omega
    · have hmod : (start + k) % cap = (start + k - cap) % cap := Nat.mod_eq_sub_mod hge
      rcases Nat.lt_or_ge (start + k - cap) cap with hlt | hge'
      · rw [hmod, Nat.mod_eq_of_lt hlt] at h ⊢
        omega
      · omega
  · intro ⟨hc, hd⟩
    refine ⟨ringDist cap start c, hd, ?_⟩
    have h := ringDist_cases cap start c
    rcases h with ⟨_, h⟩ | ⟨_, h⟩
    · rw [h, Nat.mod_eq_of_lt (by omega)]; omega
    · rw [h, Nat.mod_eq_sub_mod (by omega), Nat.mod_eq_of_lt (by omega)]; omega

/-- A run of cells starting `t` cells before `w`, and ending before or at `w`, is clear of the `len`
    cells from `w` on exactly when the ring has room for both. -/
theorem disjoint_ringCells_iff {p w s len : ℕ} (hp : p ≤ cap) (hw : w < cap) (hs : 0 < s)
    (hst : s ≤ ringDist cap p w) (hl : len ≤ cap) :
    Disjoint (ringCells cap p s) (ringCells cap w len) ↔ ringDist cap p w + len ≤ cap := by
  have hcap : 0 < cap := by omega
  have ht := ringDist_cases cap p w
  rw [Set.disjoint_left]
  constructor
  · intro h
    by_contra hlt
    -- the first cell of the run is met
    have hfirst : p % cap ∈ ringCells cap p s := ⟨0, hs, rfl⟩
    refine h hfirst ((mem_ringCells hcap hw.le hl).2 ⟨Nat.mod_lt _ hcap, ?_⟩)
    have hd := ringDist_cases cap w (p % cap)
    rcases Nat.lt_or_ge p cap with hpc | hpc
    · rw [Nat.mod_eq_of_lt hpc] at hd ⊢
      omega
    · obtain rfl : p = cap := by omega
      rw [Nat.mod_self] at hd ⊢
      omega
  · intro hroom c hc hc'
    obtain ⟨hcc, h1⟩ := (mem_ringCells hcap hp (by omega)).1 hc
    obtain ⟨-, h2⟩ := (mem_ringCells hcap hw.le hl).1 hc'
    have hd1 := ringDist_cases cap p c
    have hd2 := ringDist_cases cap w c
    omega

/-- The run starts right behind the `len` cells from `w` on exactly when the two fill the ring. -/
theorem ringEnd_eq_iff {p w len : ℕ} (hp : p ≤ cap) (hw : w < cap) (hl : len ≤ cap)
    (hlen : 0 < len) :
    p % cap = (w + len) % cap ↔ ringDist cap p w + len = cap := by
  have hd := ringDist_cases cap p w
  have hpm : p % cap = if p = cap then 0 else p := by
    split
    · next h => rw [h, Nat.mod_self]
    · next h => exact Nat.mod_eq_of_lt (by omega)
  have hwm : (w + len) % cap = if w + len < cap then w + len else w + len - cap := by
    split
    · next h => exact Nat.mod_eq_of_lt h
    · next h => rw [Nat.mod_eq_sub_mod (by omega), Nat.mod_eq_of_lt (by omega)]
  rw [hpm, hwm]
  split <;> split <;> omega

end SmartPlat.Lib
