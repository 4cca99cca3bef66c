import Mathlib.Data.List.Basic
import Mathlib.Data.Nat.Notation
import Mathlib.Data.UInt
import Mathlib.Tactic.Common
import Mathlib.Tactic.Ring

set_option autoImplicit false

/-! # Messages on a wire

Numbers are sent with their most significant byte first. A writer and a reader that keep states of their own
stay in step when each single message takes them from states that fit to states that fit; then the reader
gets back whatever sequence of messages is written. `Upholds` is for a reader of bytes that nobody need have
written: it may stop with an error that is allowed. -/

namespace SmartPlat.Lib

/-! ## Numbers -/

/-- The low `k` bytes of a number, the most significant first. -/
def bytesOf : ℕ → ℕ → List UInt8
  | 0, _ => []
  | k + 1, n => .ofNat (n >>> (8 * k) &&& 0xff) :: bytesOf k n

def ofBytes (bytes : List UInt8) : ℕ := bytes.foldl (fun n b => n <<< 8 ||| b.toNat) 0

@[simp]
theorem length_bytesOf (k n : ℕ) : (bytesOf k n).length = k := by
  induction k with
  | zero => rfl
  | succ k ih => rw [bytesOf, List.length_cons, ih]

theorem shift_or_byte (n : ℕ) (b : UInt8) : n <<< 8 ||| b.toNat = n * 256 + b.toNat := by
  rw [← Nat.shiftLeft_add_eq_or_of_lt (i := 8) b.toNat_lt, Nat.shiftLeft_eq]

theorem foldl_bytesOf (k n a : ℕ) :
    (bytesOf k n).foldl (fun n b => n <<< 8 ||| b.toNat) a = a * 2 ^ (8 * k) + n % 2 ^ (8 * k) := by
  induction k generalizing a with
  | zero => simp [bytesOf, Nat.mod_one]
  | succ k ih =>
      have hbyte : (UInt8.ofNat (n >>> (8 * k) &&& 0xff)).toNat = n / 2 ^ (8 * k) % 2 ^ 8 := by
        rw [Nat.and_two_pow_sub_one_eq_mod _ 8, Nat.shiftRight_eq_div_pow, UInt8.toNat_ofNat']
        exact Nat.mod_mod _ _
      have hmod : n % 2 ^ (8 * (k + 1)) = n % 2 ^ (8 * k) + 2 ^ (8 * k) * (n / 2 ^ (8 * k) % 2 ^ 8) := by
        rw [Nat.mul_succ, Nat.pow_add, Nat.mod_mul]
      have hpow : (2 : ℕ) ^ (8 * (k + 1)) = 2 ^ (8 * k) * 256 := by rw [Nat.mul_succ, Nat.pow_add]
      rw [bytesOf, List.foldl_cons, ih, shift_or_byte, hbyte, hmod, hpow]
      ring

/-- What is read is the number sent, as far as the bytes hold it. -/
theorem ofBytes_bytesOf (k n : ℕ) : ofBytes (bytesOf k n) = n % 2 ^ (8 * k) := by
  rw [ofBytes, foldl_bytesOf, Nat.zero_mul, Nat.zero_add]

theorem ofBytes_bytesOf_of_lt {k n : ℕ} (h : n < 2 ^ (8 * k)) : ofBytes (bytesOf k n) = n := by
  rw [ofBytes_bytesOf, Nat.mod_eq_of_lt h]

theorem ofBytes_lt (bytes : List UInt8) : ofBytes bytes < 2 ^ (8 * bytes.length) := by
  induction bytes using List.reverseRecOn with
  | nil => simp [ofBytes]
  | append_singleton bytes b ih =>
      have hb := b.toNat_lt
      have hpow : (2 : ℕ) ^ (8 * (bytes.length + 1)) = 2 ^ (8 * bytes.length) * 256 := by
        rw [Nat.mul_succ, Nat.pow_add]
      rw [ofBytes] at ih ⊢
      rw [List.foldl_append, List.foldl_cons, List.foldl_nil, shift_or_byte, List.length_append,
        List.length_singleton, hpow]
      omega

/-! ## Writers and readers in step -/

section InStep

variable {σ ρ α β μ ε δ : Type} (put : σ → α → Except ε (List β × σ))
  (get : ρ → List β → Except δ (μ × ρ × List β)) (Sync : σ → ρ → Prop) (fine : σ → α → Prop) (view : α → μ)

def writeAll : σ → List α → Except ε (List β × σ)
  | s, [] => .ok ([], s)
  | s, a :: rest => do
      let (sent, s) ← put s a
      let (more, s) ← writeAll s rest
      return (sent ++ more, s)

def readMany : ℕ → ρ → List β → Except δ (List μ × ρ × List β)
  | 0, r, wire => .ok ([], r, wire)
  | n + 1, r, wire => do
      let (m, r, wire) ← get r wire
      let (more, r, wire) ← readMany n r wire
      return (m :: more, r, wire)

/-- Every message is fine in the state in which its turn comes. -/
def Along : σ → List α → Prop
  | _, [] => True
  | s, a :: rest => fine s a ∧ ∀ sent s', put s a = .ok (sent, s') → Along s' rest

/-- A message that is fine is written, and read again behind whatever came before it and in front of
    whatever comes next. -/
def InStep : Prop :=
  ∀ s r a, Sync s r → fine s a →
    ∃ sent s' r', put s a = .ok (sent, s') ∧ Sync s' r' ∧
      ∀ rest, get r (sent ++ rest) = .ok (view a, r', rest)

variable {put get Sync fine view}

/-- **Messages in step.** What is written along a run is read as it was written. -/
theorem InStep.readMany_writeAll (h : InStep put get Sync fine view) {msgs : List α} {s : σ} {r : ρ}
    (hsync : Sync s r) (hfine : Along put fine s msgs) :
    ∃ sent s' r', writeAll put s msgs = .ok (sent, s') ∧ Sync s' r' ∧
      ∀ rest, readMany get msgs.length r (sent ++ rest) = .ok (msgs.map view, r', rest) := by
  induction msgs generalizing s r with
  | nil => exact ⟨[], s, r, rfl, hsync, fun rest => rfl⟩
  | cons a msgs ih =>
      obtain ⟨ha, hmsgs⟩ := hfine
      obtain ⟨sent, s₁, r₁, hput, hsync₁, hget⟩ := h s r a hsync ha
      obtain ⟨more, s₂, r₂, hwrite, hsync₂, hread⟩ := ih hsync₁ (hmsgs sent s₁ hput)
      refine ⟨sent ++ more, s₂, r₂, ?_, hsync₂, fun rest => ?_⟩
      · rw [writeAll, hput]
        simp only [bind, Except.bind, hwrite]
        rfl
      · rw [List.length_cons, readMany, List.append_assoc, hget]
        simp only [bind, Except.bind, hread]
        rfl

end InStep

/-! ## Readers of anything -/

section Upholds

variable {ρ α β μ δ : Type} {allowed : δ → Prop} {P Q : α → Prop}

/-- The result has `P`, or the error is allowed. -/
def Upholds (allowed : δ → Prop) (x : Except δ α) (P : α → Prop) : Prop :=
  match x with
  | .ok a => P a
  | .error e => allowed e

theorem Upholds.mono {x : Except δ α} (h : Upholds allowed x P) (hPQ : ∀ a, P a → Q a) :
    Upholds allowed x Q := by
  cases x with
  | ok a => exact hPQ a h
  | error e => exact h

theorem Upholds.bind {x : Except δ α} {f : α → Except δ β} {R : β → Prop} (h : Upholds allowed x P)
    (hf : ∀ a, P a → Upholds allowed (f a) R) : Upholds allowed (x >>= f) R := by
  cases x with
  | ok a => exact hf a h
  | error e => exact h

variable {get : ρ → List β → Except δ (μ × ρ × List β)} {Inv : ρ → Prop} {R : μ → Prop}

/-- A reader that keeps its invariant keeps it whatever it reads, and however often. -/
theorem readMany_upholds (hget : ∀ r wire, Inv r → Upholds allowed (get r wire) fun x => R x.1 ∧ Inv x.2.1)
    (n : ℕ) {r : ρ} (hr : Inv r) (wire : List β) :
    Upholds allowed (readMany get n r wire) fun x => (∀ m ∈ x.1, R m) ∧ Inv x.2.1 := by
  induction n generalizing r wire with
  | zero => exact ⟨fun m hm => absurd hm List.not_mem_nil, hr⟩
  | succ n ih =>
      refine (hget r wire hr).bind fun x hx => ?_
      refine (ih hx.2 x.2.2).bind fun y hy => ?_
      exact ⟨List.forall_mem_cons.2 ⟨hx.1, hy.1⟩, hy.2⟩

end Upholds

end SmartPlat.Lib
