import Mathlib.Data.Int.Basic
import Mathlib.Data.List.Basic
import Mathlib.Tactic.Common
import Mathlib.Data.UInt

set_option autoImplicit false

/-! # Little-endian fields of byte records

Reading and writing fixed-width integers at byte offsets, as a C program does when it casts a byte
buffer to a packed record on a little-endian machine. Reads past the end see zero bytes (a record
buffer that is cleared before it is filled). -/

namespace SmartPlat.Lib

def byteAt (b : List UInt8) (k : ℕ) : UInt8 :=
  b.getD k 0

/-- The four bytes at `k` as an unsigned number. -/
def uint32At (b : List UInt8) (k : ℕ) : ℕ :=
  (byteAt b k).toNat + 256 * (byteAt b (k + 1)).toNat + 65536 * (byteAt b (k + 2)).toNat
    + 16777216 * (byteAt b (k + 3)).toNat

/-- The four bytes at `k` as a signed `int`. -/
def int32At (b : List UInt8) (k : ℕ) : ℤ :=
  if uint32At b k < 2 ^ 31 then uint32At b k else (uint32At b k : ℤ) - 2 ^ 32

/-- The four bytes of an `int`. -/
def int32Bytes (n : ℤ) : List UInt8 :=
  let u := (n % 2 ^ 32).toNat
  [UInt8.ofNat u, UInt8.ofNat (u / 256), UInt8.ofNat (u / 65536), UInt8.ofNat (u / 16777216)]

/-- Signed 32-bit addition. -/
def addInt32 (a b : ℤ) : ℤ :=
  (a + b).bmod (2 ^ 32)

theorem byteAt_append_left {a b : List UInt8} {k : ℕ} (h : k < a.length) :
    byteAt (a ++ b) k = byteAt a k := by
  simp only [byteAt, List.getD_eq_getElem?_getD, List.getElem?_append_left h]

theorem byteAt_append_right {a b : List UInt8} (k : ℕ) :
    byteAt (a ++ b) (a.length + k) = byteAt b k := by
  simp only [byteAt, List.getD_eq_getElem?_getD, List.getElem?_append_right (Nat.le_add_right _ _),
    Nat.add_sub_cancel_left]

theorem byteAt_take {b : List UInt8} {k n : ℕ} (h : k < n) : byteAt (b.take n) k = byteAt b k := by
  simp only [byteAt, List.getD_eq_getElem?_getD, List.getElem?_take_of_lt h]

theorem byteAt_drop {b : List UInt8} (n k : ℕ) : byteAt (b.drop n) k = byteAt b (n + k) := by
  simp only [byteAt, List.getD_eq_getElem?_getD, List.getElem?_drop]

theorem byteAt_eq_getElem {b : List UInt8} {k : ℕ} (h : k < b.length) : byteAt b k = b[k] := by
  simp only [byteAt, List.getD_eq_getElem?_getD, List.getElem?_eq_getElem h, Option.getD_some]

theorem ext_byteAt {a b : List UInt8} (hlen : a.length = b.length)
    (h : ∀ k < a.length, byteAt a k = byteAt b k) : a = b := by
  refine List.ext_getElem hlen fun k hk hk' => ?_
  rw [← byteAt_eq_getElem hk, ← byteAt_eq_getElem hk', h k hk]

/-- A field is determined by its four bytes. -/
theorem int32At_congr {a b : List UInt8} {j k : ℕ}
    (h : ∀ i < 4, byteAt a (j + i) = byteAt b (k + i)) : int32At a j = int32At b k := by
  have hu : uint32At a j = uint32At b k := by
    have h0 := h 0 (by omega)
    simp only [Nat.add_zero] at h0
    rw [uint32At, uint32At, h0, h 1 (by omega), h 2 (by omega), h 3 (by omega)]
  rw [int32At, int32At, hu]

theorem int32At_append_left {a b : List UInt8} {k : ℕ} (h : k + 4 ≤ a.length) :
    int32At (a ++ b) k = int32At a k :=
  int32At_congr fun _ hi => byteAt_append_left (by omega)

theorem int32At_append_right {a b : List UInt8} (k : ℕ) :
    int32At (a ++ b) (a.length + k) = int32At b k :=
  int32At_congr fun i _ => by rw [Nat.add_assoc, byteAt_append_right]

theorem int32At_take {b : List UInt8} {k n : ℕ} (h : k + 4 ≤ n) :
    int32At (b.take n) k = int32At b k :=
  int32At_congr fun _ hi => byteAt_take (by omega)

/-- A field written as an `int` reads back as that `int`. -/
theorem int32At_int32Bytes (n : ℤ) (rest : List UInt8) (h : -2 ^ 31 ≤ n) (h' : n < 2 ^ 31) :
    int32At (int32Bytes n ++ rest) 0 = n := by
  have hu : uint32At (int32Bytes n ++ rest) 0 = (n % 2 ^ 32).toNat := by
    simp [uint32At, int32Bytes, byteAt]
    omega
  unfold int32At
  rw [hu]
  split <;> omega

theorem addInt32_of_lt {a b : ℤ} (h : -2 ^ 31 ≤ a + b) (h' : a + b < 2 ^ 31) :
    addInt32 a b = a + b := by
  apply Int.bmod_eq_of_le <;> omega

/-! ## Masking with a short key

A text is masked by combining it with a key that starts again after `m` bytes. Doing it twice gives the
text back. A text that is unmasked although it never was, with its own first bytes for a key, comes out
unchanged only if it is made of blocks of `m` bytes that are zero every other time. -/

variable {m n : ℕ} {key p : ℕ → UInt8} {data : List UInt8}

def cycleXor (m : ℕ) (key : ℕ → UInt8) (data : List UInt8) : List UInt8 :=
  data.mapIdx fun i b => b ^^^ key (i % m)

@[simp]
theorem length_cycleXor : (cycleXor m key data).length = data.length := List.length_mapIdx

theorem byteAt_cycleXor {i : ℕ} (h : i < data.length) :
    byteAt (cycleXor m key data) i = byteAt data i ^^^ key (i % m) := by
  rw [byteAt_eq_getElem (by rwa [length_cycleXor]), byteAt_eq_getElem h]
  exact List.getElem_mapIdx

theorem cycleXor_cycleXor : cycleXor m key (cycleXor m key data) = data := by
  refine List.ext_getElem (by simp) fun i _ _ => ?_
  simp only [cycleXor, List.getElem_mapIdx, UInt8.xor_assoc, UInt8.xor_self, UInt8.xor_zero]

theorem cycleXor_congr {key' : ℕ → UInt8} (h : ∀ i < m, key i = key' i) (hm : 0 < m) :
    cycleXor m key data = cycleXor m key' data := by
  refine List.mapIdx_eq_mapIdx_iff.2 fun i _ => ?_
  rw [h _ (Nat.mod_lt _ hm)]

/-- Blocks of `m` bytes, the first one and zeros in turn, up to `n`. -/
def Alternates (m n : ℕ) (p : ℕ → UInt8) : Prop :=
  ∀ k < n, p k = if k / m % 2 = 0 then p (k % m) else 0

theorem xor_eq_iff {x a b : UInt8} : x ^^^ a = b ↔ x = b ^^^ a := by
  constructor
  · rintro rfl
    rw [UInt8.xor_assoc, UInt8.xor_self, UInt8.xor_zero]
  · rintro rfl
    rw [UInt8.xor_assoc, UInt8.xor_self, UInt8.xor_zero]

/-- One block further the start and zeros change places. -/
theorem alternates_step (hm : 0 < m) (i : ℕ) :
    (if (i + m) / m % 2 = 0 then p ((i + m) % m) else 0)
      = (if i / m % 2 = 0 then p (i % m) else 0) ^^^ p (i % m) := by
  rw [Nat.add_div_right i hm, Nat.add_mod_right]
  by_cases h : i / m % 2 = 0
  · rw [if_pos h, if_neg (by omega), UInt8.xor_self]
  · rw [if_neg h, if_pos (by omega), UInt8.zero_xor]

/-- **Its own start as the key.** -/
theorem xor_start_iff (hm : 0 < m) :
    (∀ i < n, p (i + m) ^^^ p (i % m) = p i) ↔ Alternates m (n + m) p := by
  constructor
  · intro h k
    induction k using Nat.strong_induction_on with
    | _ k ih =>
        intro hk
        rcases lt_or_ge k m with hlt | hge
        · rw [Nat.div_eq_of_lt hlt, Nat.mod_eq_of_lt hlt]
          rfl
        · obtain ⟨i, rfl⟩ := Nat.exists_eq_add_of_le' hge
          rw [alternates_step hm, ← ih i (by omega) (by omega)]
          exact xor_eq_iff.1 (h i (by omega))
  · intro h i hi
    rw [xor_eq_iff, h (i + m) (by omega), alternates_step hm, ← h i (by omega)]

end SmartPlat.Lib
