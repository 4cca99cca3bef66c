import SmartPlat.Common
import Mathlib.Data.Nat.Notation
import Mathlib.Data.Int.Order.Basic
import Mathlib.Data.Nat.Find
import Mathlib.Data.List.Infix

set_option autoImplicit false

/-! # C strings

A `char *` argument is the bytes before its terminator; a `char field[n + 1]` holds at most `n` of
them. `sprintf(field, "%s", …)` writes as many bytes as it is given, `snprintf` stops at the size it
is told. -/

namespace SmartPlat

/-- A NUL-terminated string, by the bytes before the terminator. -/
structure CString where
  bytes : List UInt8
  noNul : 0 ∉ bytes
  deriving DecidableEq, Repr

theorem zero_notMem_nil : (0 : UInt8) ∉ [] := List.not_mem_nil

namespace CString

def strlen (s : CString) : ℕ := s.bytes.length

/-- The string at the start of a byte buffer. -/
def ofBuffer (buffer : List UInt8) : CString where
  bytes := buffer.takeWhile (· ≠ 0)
  noNul h := by simpa using List.all_eq_true.1 List.all_takeWhile 0 h

theorem bytes_ofBuffer_append {p : List UInt8} (h : 0 ∉ p) (w : List UInt8) :
    (ofBuffer (p ++ w)).bytes = p ++ (ofBuffer w).bytes := by
  have hall : ∀ b ∈ p, decide (b ≠ 0) = true := fun b hb => decide_eq_true fun h0 => h (h0 ▸ hb)
  exact List.takeWhile_append_of_pos hall

@[simp]
theorem bytes_ofBuffer_nil : (ofBuffer []).bytes = [] := rfl

theorem bytes_ofBuffer {p : List UInt8} (h : 0 ∉ p) : (ofBuffer p).bytes = p := by
  have happend := bytes_ofBuffer_append h []
  rwa [List.append_nil, bytes_ofBuffer_nil, List.append_nil] at happend

theorem ext_bytes {s t : CString} (h : s.bytes = t.bytes) : s = t := by
  cases s
  cases t
  cases h
  rfl

end CString

/-- What a field declared `char field[n + 1]` holds. -/
structure CharArray (n : ℕ) where
  str : CString
  fits : str.strlen ≤ n
  deriving DecidableEq, Repr

variable {n : ℕ}

theorem CharArray.ext_str {a b : CharArray n} (h : a.str = b.str) : a = b := by
  cases a
  cases b
  cases h
  rfl

/-- `sprintf(field, "%s", s)`: a string that does not fit is written past the end of the field. -/
def sprintf (n : ℕ) (s : CString) : Except Fault (CharArray n) :=
  if h : s.strlen ≤ n then .ok ⟨s, h⟩ else .error .badAccess

/-- `snprintf(field, n + 1, "%s", s)`. -/
def snprintf (n : ℕ) (s : CString) : CharArray n where
  str := ⟨s.bytes.take n, fun h => s.noNul (List.mem_of_mem_take h)⟩
  fits := by
    rw [CString.strlen, List.length_take]
    exact Nat.min_le_left _ _

theorem sprintf_eq_ok_iff {s : CString} {a : CharArray n} : sprintf n s = .ok a ↔ a.str = s := by
  obtain ⟨str, fits⟩ := a
  unfold sprintf
  split
  · next h =>
      rw [Except.ok.injEq, CharArray.mk.injEq]
      exact eq_comm
  · next h =>
      simp only [reduceCtorEq, false_iff]
      rintro rfl
      exact h fits

/-- Copying one field into another of the same size loses nothing. -/
@[simp]
theorem snprintf_str (a : CharArray n) : snprintf n a.str = a := by
  obtain ⟨⟨bytes, noNul⟩, fits⟩ := a
  simp only [snprintf, CharArray.mk.injEq, CString.mk.injEq]
  exact List.take_of_length_le fits

/-! ## `strstr`, `strcasecmp`, `atoi` -/

/-- What follows from the first occurrence on. -/
def strstr (needle : List UInt8) : List UInt8 → Option (List UInt8)
  | [] => if needle = [] then some [] else none
  | b :: s => if needle <+: b :: s then some (b :: s) else strstr needle s

/-- The first occurrence of `needle` in `s` is at `k`. -/
structure FirstAt (needle s : List UInt8) (k : ℕ) : Prop where
  here : needle <+: s.drop k
  notBefore : ∀ j < k, ¬ needle <+: s.drop j

theorem FirstAt.strstr_eq {needle s : List UInt8} {k : ℕ} (h : FirstAt needle s k) :
    strstr needle s = some (s.drop k) := by
  induction s generalizing k with
  | nil =>
      have hneedle := h.here
      rw [List.drop_nil, List.prefix_nil] at hneedle
      rw [strstr, if_pos hneedle, List.drop_nil]
  | cons b s ih =>
      cases k with
      | zero =>
          have hhere : needle <+: b :: s := h.here
          rw [strstr, if_pos hhere, List.drop_zero]
      | succ k =>
          have hnot : ¬ needle <+: b :: s := h.notBefore 0 k.succ_pos
          rw [strstr, if_neg hnot, List.drop_succ_cons]
          exact ih ⟨h.here, fun j hj => h.notBefore (j + 1) (Nat.succ_lt_succ hj)⟩

theorem FirstAt.unique {needle s : List UInt8} {j k : ℕ} (hj : FirstAt needle s j)
    (hk : FirstAt needle s k) : j = k := by
  rcases Nat.lt_trichotomy j k with hlt | rfl | hlt
  · exact absurd hj.here (hk.notBefore j hlt)
  · rfl
  · exact absurd hk.here (hj.notBefore k hlt)

theorem exists_firstAt {needle s : List UInt8} {k : ℕ} (h : needle <+: s.drop k) :
    ∃ j ≤ k, FirstAt needle s j := by
  classical
  have hex : ∃ j, needle <+: s.drop j := ⟨k, h⟩
  exact ⟨Nat.find hex, Nat.find_min' hex h, Nat.find_spec hex, fun j hj => Nat.find_min hex hj⟩

theorem strstr_eq_some_iff {needle s p : List UInt8} :
    strstr needle s = some p ↔ ∃ k ≤ s.length, FirstAt needle s k ∧ p = s.drop k := by
  constructor
  · intro h
    induction s with
    | nil =>
        rw [strstr] at h
        split at h
        · next hneedle =>
            cases h
            exact ⟨0, le_rfl, ⟨hneedle ▸ List.nil_prefix, fun j hj => absurd hj j.not_lt_zero⟩, rfl⟩
        · cases h
    | cons b s ih =>
        rw [strstr] at h
        split at h
        · next hhere =>
            cases h
            exact ⟨0, Nat.zero_le _, ⟨hhere, fun j hj => absurd hj j.not_lt_zero⟩, rfl⟩
        · next hnot =>
            obtain ⟨k, hle, hk, rfl⟩ := ih h
            refine ⟨k + 1, Nat.succ_le_succ hle, ⟨hk.here, fun j hj => ?_⟩, rfl⟩
            cases j with
            | zero => exact hnot
            | succ j => exact hk.notBefore j (Nat.lt_of_succ_lt_succ hj)
  · rintro ⟨k, -, hk, rfl⟩
    exact hk.strstr_eq

theorem strstr_eq_none_iff {needle s : List UInt8} :
    strstr needle s = none ↔ ¬ needle <:+: s := by
  constructor
  · rintro h ⟨pre, suf, rfl⟩
    have hpre : needle <+: (pre ++ needle ++ suf).drop pre.length := by
      rw [List.append_assoc, List.drop_left]
      exact List.prefix_append _ _
    obtain ⟨k, -, hk⟩ := exists_firstAt hpre
    cases h.symm.trans hk.strstr_eq
  · intro h
    cases hs : strstr needle s with
    | none => rfl
    | some p =>
        obtain ⟨k, -, hk, -⟩ := strstr_eq_some_iff.1 hs
        exact absurd (hk.here.isInfix.trans (List.drop_suffix k s).isInfix) h

/-- What is found stays where it is when the text goes on. -/
theorem strstr_append_of_some {needle s p : List UInt8} (h : strstr needle s = some p)
    (t : List UInt8) : strstr needle (s ++ t) = some (p ++ t) := by
  obtain ⟨k, hk, hfirst, rfl⟩ := strstr_eq_some_iff.1 h
  have hlen := hfirst.here.length_le
  rw [List.length_drop] at hlen
  have hdrop : ∀ j ≤ k, (s ++ t).drop j = s.drop j ++ t := fun j hj =>
    List.drop_append_of_le_length (hj.trans hk)
  rw [← hdrop k le_rfl]
  refine FirstAt.strstr_eq ⟨?_, fun j hj hpre => hfirst.notBefore j hj ?_⟩
  · rw [hdrop k le_rfl]
    exact hfirst.here.trans (List.prefix_append _ _)
  · rw [hdrop j hj.le] at hpre
    refine List.prefix_of_prefix_length_le hpre (List.prefix_append _ t) ?_
    rw [List.length_drop]
    omega

theorem prefix_of_notMem {needle s t : List UInt8} {x : UInt8} (hx : x ∉ needle)
    (h : needle <+: s ++ x :: t) : needle <+: s := by
  induction s generalizing needle with
  | nil =>
      cases needle with
      | nil => exact List.nil_prefix
      | cons b needle =>
          rw [List.nil_append, List.cons_prefix_cons] at h
          exact absurd h.1 fun heq => hx (heq ▸ List.mem_cons_self)
  | cons a s ih =>
      cases needle with
      | nil => exact List.nil_prefix
      | cons b needle =>
          rw [List.cons_append, List.cons_prefix_cons] at h
          rw [List.cons_prefix_cons]
          exact ⟨h.1, ih (fun hmem => hx (List.mem_cons_of_mem _ hmem)) h.2⟩

/-- A text without the needle and a byte that is not in it can be skipped. -/
theorem strstr_append_of_none {needle s : List UInt8} {x : UInt8} (hx : x ∉ needle)
    (h : ¬ needle <:+: s) (t : List UInt8) : strstr needle (s ++ x :: t) = strstr needle t := by
  induction s with
  | nil =>
      rw [List.nil_append, strstr, if_neg]
      intro hpre
      exact h (prefix_of_notMem hx (s := []) hpre).isInfix
  | cons b s ih =>
      rw [List.cons_append, strstr, if_neg, ih fun hin => h (hin.trans (List.suffix_cons b s).isInfix)]
      intro hpre
      exact h (prefix_of_notMem hx (s := b :: s) hpre).isInfix

/-- An occurrence before place `k` lies in the first `k + needle.length - 1` bytes. -/
theorem exists_lt_prefix_iff {needle s : List UInt8} {k : ℕ} (hneedle : needle ≠ []) :
    (∃ j < k, needle <+: s.drop j) ↔ needle <:+: s.take (k + needle.length - 1) := by
  have hpos := List.length_pos_iff.2 hneedle
  constructor
  · intro ⟨j, hj, t, ht⟩
    refine List.infix_iff_prefix_suffix.2 ⟨(s.take (k + needle.length - 1)).drop j, ?_,
      List.drop_suffix _ _⟩
    rw [List.drop_take, ← ht, List.prefix_take_iff]
    exact ⟨List.prefix_append _ _, by omega⟩
  · intro ⟨pre, suf, heq⟩
    have hlen := congrArg List.length heq
    simp only [List.length_append, List.length_take] at hlen
    refine ⟨pre.length, by omega, ?_⟩
    rw [← List.take_append_drop (k + needle.length - 1) s, ← heq, List.append_assoc,
      List.append_assoc, List.drop_left]
    exact List.prefix_append _ _

def tolower (b : UInt8) : UInt8 := if 65 ≤ b ∧ b ≤ 90 then b + 32 else b

/-- `strcasecmp(s1, s2) == 0` -/
def strcasecmp (s₁ s₂ : List UInt8) : Bool := s₁.map tolower = s₂.map tolower

/-- `(int)strtol(s, NULL, 10)`, where a `long` has 64 bits and does not wrap. -/
def atoi (s : List UInt8) : ℤ :=
  let s := s.dropWhile fun b => b = 32 ∨ 9 ≤ b ∧ b ≤ 13
  let value (digits : List UInt8) : ℕ := (digits.takeWhile fun b => 48 ≤ b ∧ b ≤ 57).foldl
    (fun n b => 10 * n + (b.toNat - 48)) 0
  let n : ℤ := match s with
    | 45 :: digits => max (-2 ^ 63) (-(value digits : ℤ))
    | 43 :: digits => min (2 ^ 63 - 1) (value digits)
    | digits => min (2 ^ 63 - 1) (value digits)
  Int.bmod n (2 ^ 32)

example : atoi [32, 49, 50, 13] = 12 := by decide

/-! ## `sscanf` of a date -/

/-- `%0Nd` with `N = width`: white space, a sign and digits, at most `width` bytes of the last two. -/
def scanInt (width : ℕ) (s : List UInt8) : Option (ℤ × List UInt8) :=
  let s := s.dropWhile fun b => b = 32 ∨ 9 ≤ b ∧ b ≤ 13
  let sign : ℕ := if s.head? = some 43 ∨ s.head? = some 45 then 1 else 0
  let digits := ((s.drop sign).take (width - sign)).takeWhile fun b => 48 ≤ b ∧ b ≤ 57
  if digits = [] then none
  else
    let n : ℕ := digits.foldl (fun n b => 10 * n + (b.toNat - 48)) 0
    some (if s.head? = some 45 then -n else n, s.drop (sign + digits.length))

/-- The byte of the format between two numbers; a blank stands for any white space, also none. -/
def scanSeparator (sep : UInt8) (s : List UInt8) : Option (List UInt8) :=
  if sep = 32 then some (s.dropWhile fun b => b = 32 ∨ 9 ≤ b ∧ b ≤ 13)
  else if s.head? = some sep then some s.tail
  else none

/-- The numbers that are assigned, in order; each comes with its width and what has to follow. -/
def scanInts : List (ℕ × UInt8) → List UInt8 → List ℤ
  | [], _ => []
  | (width, sep) :: fmt, s =>
      match scanInt width s with
      | none => []
      | some (n, s) =>
          n :: match scanSeparator sep s with
            | none => []
            | some s => scanInts fmt s

/-- `sscanf(s, "%04d-%02d-%02d %02d:%02d:%02d", …)`: the members that are written. -/
def sscanfDate (s : List UInt8) : List ℤ :=
  scanInts [(4, 45), (2, 45), (2, 32), (2, 58), (2, 58), (2, 32)] s

end SmartPlat
