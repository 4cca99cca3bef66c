import Mathlib.Data.Nat.Digits.Lemmas
import Mathlib.Tactic.Common

set_option autoImplicit false

/-! # Formatted text

The conversions `%s`, `%d`, `%0Nd` and `%%` of `printf`, on bytes. -/

namespace SmartPlat.Lib

/-- The bytes of a string constant. -/
def ascii (s : String) : List UInt8 := s.toList.map fun c => UInt8.ofNat c.toNat

theorem ascii_ofList (l : List Char) :
    ascii (String.ofList l) = l.map fun c => UInt8.ofNat c.toNat := by
  rw [ascii, String.toList_ofList]

/-- Looked up in the characters, without the encoding of the text. -/
theorem notMem_ascii {l : List Char} {b : UInt8} (h : b ∉ l.map fun c => UInt8.ofNat c.toNat) :
    b ∉ ascii (String.ofList l) := by
  rwa [ascii_ofList]

theorem length_ascii_ofList (l : List Char) : (ascii (String.ofList l)).length = l.length := by
  rw [ascii_ofList, List.length_map]

theorem ascii_append (s t : String) : ascii (s ++ t) = ascii s ++ ascii t := by simp [ascii]

theorem length_ascii (s : String) : (ascii s).length = s.toList.length := List.length_map _

inductive PrintfArg where
  | str (s : List UInt8)
  | int (n : ℤ)

/-! ## Numbers -/

def decimal (n : ℕ) : List UInt8 :=
  if n = 0 then [48] else (Nat.digits 10 n).reverse.map fun d => UInt8.ofNat (48 + d)

def decimalInt : ℤ → List UInt8
  | .ofNat n => decimal n
  | .negSucc n => 45 :: decimal (n + 1)

/-- `%0Nd`: zeros go between the sign and the digits. -/
def zeroPadded (width : ℕ) : ℤ → List UInt8
  | .ofNat n => List.replicate (width - (decimal n).length) 48 ++ decimal n
  | .negSucc n =>
      45 :: (List.replicate (width - 1 - (decimal (n + 1)).length) 48 ++ decimal (n + 1))

/-- The format is read from the left; a conversion without an argument of its kind is copied. -/
def printf : List UInt8 → List PrintfArg → List UInt8
  | 37 :: 115 :: fmt, .str s :: args => s ++ printf fmt args
  | 37 :: 100 :: fmt, .int n :: args => decimalInt n ++ printf fmt args
  | 37 :: 48 :: width :: 100 :: fmt, .int n :: args =>
      zeroPadded (width.toNat - 48) n ++ printf fmt args
  | 37 :: 37 :: fmt, args => 37 :: printf fmt args
  | c :: fmt, args => c :: printf fmt args
  | [], _ => []

/-- `snprintf(buffer, size, …)`. -/
def snprintfBytes (size : ℕ) (fmt : List UInt8) (args : List PrintfArg) : List UInt8 :=
  (printf fmt args).take (size - 1)

theorem snprintfBytes_eq {size : ℕ} {fmt : List UInt8} {args : List PrintfArg}
    (h : (printf fmt args).length < size) : snprintfBytes size fmt args = printf fmt args :=
  List.take_of_length_le (by omega)

/-! ## One piece of the format after the other -/

theorem printf_cons {c : UInt8} (h : c ≠ 37) (fmt : List UInt8) (args : List PrintfArg) :
    printf (c :: fmt) args = c :: printf fmt args := by
  rw [printf.eq_def]
  split <;> simp_all

/-- Text without a `%` is copied. -/
theorem printf_append {s : List UInt8} (h : 37 ∉ s) (fmt : List UInt8) (args : List PrintfArg) :
    printf (s ++ fmt) args = s ++ printf fmt args := by
  induction s with
  | nil => rfl
  | cons c s ih =>
      rw [List.cons_append, printf_cons fun hc => h (hc ▸ List.mem_cons_self),
        ih fun hs => h (List.mem_cons_of_mem _ hs)]
      rfl

theorem printf_str (s fmt : List UInt8) (args : List PrintfArg) :
    printf (ascii "%s" ++ fmt) (.str s :: args) = s ++ printf fmt args := rfl

theorem printf_int (n : ℤ) (fmt : List UInt8) (args : List PrintfArg) :
    printf (ascii "%d" ++ fmt) (.int n :: args) = decimalInt n ++ printf fmt args := rfl

/-! ## What numbers look like -/

/-- The bytes of a number: digits and a minus sign. -/
def NumberByte (b : UInt8) : Prop := b = 45 ∨ 48 ≤ b ∧ b ≤ 57

theorem digit_of_mem_decimal {n : ℕ} {b : UInt8} (h : b ∈ decimal n) : 48 ≤ b ∧ b ≤ 57 := by
  unfold decimal at h
  split at h
  · obtain rfl := List.mem_singleton.1 h
    decide
  · obtain ⟨d, hd, rfl⟩ := List.mem_map.1 h
    have hlt := Nat.digits_lt_base (by decide : 1 < 10) (List.mem_reverse.1 hd)
    interval_cases d <;> decide

theorem numberByte_decimal {n : ℕ} {b : UInt8} (h : b ∈ decimal n) : NumberByte b :=
  .inr (digit_of_mem_decimal h)

/-- The value of the digits, from the left. -/
theorem foldl_decimal (n : ℕ) :
    (decimal n).foldl (fun n b => 10 * n + (b.toNat - 48)) 0 = n := by
  unfold decimal
  split
  · next h => exact h.symm
  · conv_rhs => rw [← Nat.ofDigits_digits 10 n, Nat.ofDigits_eq_foldr]
    rw [List.foldl_map, List.foldl_reverse]
    have hdigits : ∀ d ∈ Nat.digits 10 n, (UInt8.ofNat (48 + d)).toNat - 48 = d := by
      intro d hd
      have hlt := Nat.digits_lt_base (by decide : 1 < 10) hd
      interval_cases d <;> rfl
    generalize Nat.digits 10 n = l at hdigits ⊢
    induction l with
    | nil => rfl
    | cons d l ih =>
        rw [List.foldr_cons, List.foldr_cons, ih fun d hd => hdigits d (List.mem_cons_of_mem _ hd),
          hdigits d List.mem_cons_self]
        simp [Nat.add_comm]

theorem numberByte_decimalInt {n : ℤ} {b : UInt8} (h : b ∈ decimalInt n) : NumberByte b := by
  cases n with
  | ofNat n => exact numberByte_decimal h
  | negSucc n =>
      rcases List.mem_cons.1 h with rfl | h
      · exact .inl rfl
      · exact numberByte_decimal h

theorem numberByte_zeroPadded {width : ℕ} {n : ℤ} {b : UInt8} (h : b ∈ zeroPadded width n) :
    NumberByte b := by
  have hzero : ∀ k, b ∈ List.replicate k (48 : UInt8) → NumberByte b := by
    intro k hk
    obtain rfl := (List.mem_replicate.1 hk).2
    exact .inr (by decide)
  cases n with
  | ofNat n => exact (List.mem_append.1 h).elim (hzero _) numberByte_decimal
  | negSucc n =>
      rcases List.mem_cons.1 h with rfl | h
      · exact .inl rfl
      · exact (List.mem_append.1 h).elim (hzero _) numberByte_decimal

theorem digit_of_mem_zeroPadded {width n : ℕ} {b : UInt8} (h : b ∈ zeroPadded width n) :
    48 ≤ b ∧ b ≤ 57 := by
  rcases List.mem_append.1 h with h | h
  · obtain rfl := (List.mem_replicate.1 h).2
    decide
  · exact digit_of_mem_decimal h

theorem foldl_zeroPadded (width n : ℕ) :
    (zeroPadded width n).foldl (fun n b => 10 * n + (b.toNat - 48)) 0 = n := by
  have hzeros : ∀ k, (List.replicate k (48 : UInt8)).foldl (fun n b => 10 * n + (b.toNat - 48)) 0 = 0 := by
    intro k
    induction k with
    | zero => rfl
    | succ k ih => exact ih
  show (List.replicate _ 48 ++ decimal n).foldl _ 0 = n
  rw [List.foldl_append, hzeros, foldl_decimal]

/-- A number is read back from in front of a character that is no digit. -/
theorem zeroPadded_cons_inj {width m n : ℕ} {b : UInt8} (hb : ¬ (48 ≤ b ∧ b ≤ 57)) {s t : List UInt8}
    (h : zeroPadded width m ++ b :: s = zeroPadded width n ++ b :: t) : m = n ∧ s = t := by
  have hdigits : ∀ (k : ℕ) (r : List UInt8),
      (zeroPadded width k ++ b :: r).takeWhile (fun c => 48 ≤ c ∧ c ≤ 57) = zeroPadded width k := by
    intro k r
    rw [List.takeWhile_append_of_pos fun c hc => decide_eq_true (digit_of_mem_zeroPadded hc),
      List.takeWhile_cons_of_neg (by simpa using hb), List.append_nil]
  have hsame := congrArg (List.takeWhile fun c => 48 ≤ c ∧ c ≤ 57) h
  rw [hdigits, hdigits] at hsame
  obtain rfl : m = n := by rw [← foldl_zeroPadded width m, hsame, foldl_zeroPadded]
  exact ⟨rfl, (List.cons.inj (List.append_cancel_left h)).2⟩

theorem length_decimal_le {n k : ℕ} (hk : 0 < k) (h : n < 10 ^ k) : (decimal n).length ≤ k := by
  unfold decimal
  split
  · exact hk
  · rw [List.length_map, List.length_reverse]
    exact (Nat.digits_length_le_iff (by decide) n).2 h

/-- A 32-bit number takes at most eleven characters. -/
theorem length_decimalInt_le {n : ℤ} (h : n.natAbs < 10 ^ 10) : (decimalInt n).length ≤ 11 := by
  cases n with
  | ofNat n => exact (length_decimal_le (by decide) h).trans (by decide)
  | negSucc n => exact Nat.succ_le_succ (length_decimal_le (by decide) h)

theorem length_number (n : Int32) : (decimalInt n.toInt).length ≤ 11 := by
  have hlt := n.toInt_lt
  have hle := n.le_toInt
  exact length_decimalInt_le (by omega)

end SmartPlat.Lib
