import SmartPlat.CString
import SmartPlat.Lib.Printf
import Mathlib.Data.List.TakeWhile

set_option autoImplicit false

/-! # Numbers that are printed and read back

An `int` comes back from the text that `%d` makes of it, and so does one that the database sends. -/

namespace SmartPlat

open SmartPlat.Lib

/-- White space is skipped; a number does not start with any. -/
theorem dropWhile_decimalInt (n : ℤ) :
    (decimalInt n).dropWhile (fun b => b = 32 ∨ 9 ≤ b ∧ b ≤ 13) = decimalInt n := by
  have hnot : ∀ b ∈ decimalInt n, ¬ (b = 32 ∨ 9 ≤ b ∧ b ≤ 13) := by
    intro b hb
    rcases numberByte_decimalInt hb with rfl | ⟨h48, h57⟩
    · decide
    · rw [UInt8.le_iff_toNat_le] at h48
      simp only [← UInt8.toNat_inj, UInt8.le_iff_toNat_le]
      simp only [UInt8.reduceToNat] at h48 ⊢
      omega
  cases hs : decimalInt n with
  | nil => rfl
  | cons b s => exact List.dropWhile_cons_of_neg (by simpa using hnot b (hs ▸ List.mem_cons_self))

theorem value_decimal (n : ℕ) :
    ((decimal n).takeWhile fun b => 48 ≤ b ∧ b ≤ 57).foldl
      (fun n b => 10 * n + (b.toNat - 48)) 0 = n := by
  have hdigits : ∀ b ∈ decimal n, decide (48 ≤ b ∧ b ≤ 57) = true := fun b hb =>
    decide_eq_true (digit_of_mem_decimal hb)
  rw [List.takeWhile_eq_self_iff.2 hdigits, foldl_decimal]

/-- **What `%d` prints, `atoi` reads back.** -/
theorem atoi_decimalInt {n : ℤ} (h : -2 ^ 31 ≤ n) (h' : n < 2 ^ 31) : atoi (decimalInt n) = n := by
  unfold atoi
  rw [dropWhile_decimalInt]
  cases n with
  | ofNat n =>
      rw [Int.ofNat_eq_natCast] at h h'
      have hdigit : ∀ b ∈ decimal n, 48 ≤ b := fun b hb => (digit_of_mem_decimal hb).1
      rw [decimalInt]
      dsimp only
      split
      · next hs => exact absurd (hdigit 45 (hs ▸ List.mem_cons_self)) (by decide)
      · next hs => exact absurd (hdigit 43 (hs ▸ List.mem_cons_self)) (by decide)
      · rw [value_decimal, min_eq_right (by omega)]
        exact Int.bmod_eq_of_le (by omega) (by omega)
  | negSucc n =>
      rw [decimalInt]
      simp only [value_decimal]
      rw [max_eq_right (by omega), Int.bmod_eq_of_le (by omega) (by omega)]
      rfl

end SmartPlat
