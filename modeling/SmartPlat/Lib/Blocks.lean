import Mathlib.Data.List.Basic
import Mathlib.Data.Nat.Notation
import Mathlib.Tactic.Common

set_option autoImplicit false

/-! # Blocks of memory

A pointer is null or designates a block of some bytes; code that goes past the end of a block ends in an
error. `Ends x P` says that `x` runs to its end with a result that has `P`. Its rules are equivalences,
so that they compute when exactly code stays inside its blocks. -/

namespace SmartPlat.Lib

variable {ε α β : Type} {x : Except ε α} {P : α → Prop}

/-! ## Runs to the end -/

def Ends (x : Except ε α) (P : α → Prop) : Prop := ∃ a, x = .ok a ∧ P a

@[simp]
theorem ends_ok {a : α} : Ends (.ok a : Except ε α) P ↔ P a := by
  constructor
  · intro ⟨b, hb, hP⟩
    cases hb
    exact hP
  · exact fun hP => ⟨a, rfl, hP⟩

@[simp]
theorem ends_pure {a : α} : Ends (pure a : Except ε α) P ↔ P a := ends_ok

@[simp]
theorem not_ends_error {e : ε} : ¬ Ends (.error e : Except ε α) P := fun ⟨_, h, _⟩ => nomatch h

@[simp]
theorem ends_bind {f : α → Except ε β} {R : β → Prop} :
    Ends (x >>= f) R ↔ Ends x fun a => Ends (f a) R := by
  cases x with
  | error e => exact iff_of_false not_ends_error not_ends_error
  | ok a => exact (ends_ok (P := fun a => Ends (f a) R)).symm

@[simp]
theorem ends_map {f : α → β} {R : β → Prop} : Ends (f <$> x) R ↔ Ends x fun a => R (f a) := by
  cases x with
  | error e => exact iff_of_false not_ends_error not_ends_error
  | ok a => exact ends_ok.trans (ends_ok (P := fun a => R (f a))).symm

@[simp]
theorem ends_ite {c : Prop} [Decidable c] {y : Except ε α} :
    Ends (if c then x else y) P ↔ if c then Ends x P else Ends y P := by
  split <;> rfl

theorem ends_congr {Q : α → Prop} (h : ∀ a, P a ↔ Q a) : Ends x P ↔ Ends x Q :=
  exists_congr fun a => and_congr_right fun _ => h a

/-- What does not depend on the result can be said apart. -/
theorem ends_and {q : Prop} : (Ends x fun a => P a ∧ q) ↔ Ends x P ∧ q := by
  constructor
  · intro ⟨a, ha, hP, hq⟩
    exact ⟨⟨a, ha, hP⟩, hq⟩
  · intro ⟨⟨a, ha, hP⟩, hq⟩
    exact ⟨a, ha, hP, hq⟩

theorem ends_and_left {q : Prop} : (Ends x fun a => q ∧ P a) ↔ q ∧ Ends x P := by
  rw [ends_congr fun _ => and_comm, ends_and, and_comm]

/-- `for (i = 0; i < n; i++)` -/
def forRange (n : ℕ) (f : ℕ → Except ε Unit) : Except ε Unit := (List.range n).forM f

theorem ends_forM {l : List β} {f : β → Except ε Unit} {R : Unit → Prop} :
    Ends (l.forM f) R ↔ (∀ b ∈ l, Ends (f b) fun _ => True) ∧ R () := by
  induction l with
  | nil => simp
  | cons b l ih =>
      have hcons : (b :: l).forM f = f b >>= fun _ => l.forM f := rfl
      rw [hcons, ends_bind, List.forall_mem_cons, and_assoc, ← ih]
      cases f b with
      | error e => simp
      | ok u => simp

theorem ends_forRange {n : ℕ} {f : ℕ → Except ε Unit} {R : Unit → Prop} :
    Ends (forRange n f) R ↔ (∀ i < n, Ends (f i) fun _ => True) ∧ R () := by
  simp only [forRange, ends_forM, List.mem_range]

@[simp]
theorem ends_exceptMap {f : α → β} {R : β → Prop} : Ends (x.map f) R ↔ Ends x fun a => R (f a) :=
  ends_map

/-- Where each element decides whether its own call ends, and with what, so do they all. -/
theorem ends_mapM {γ : Type} {l : List β} {f : β → Except ε γ} {g : β → γ} {c : β → Prop}
    (h : ∀ b ∈ l, ∀ R : γ → Prop, Ends (f b) R ↔ c b ∧ R (g b)) {R : List γ → Prop} :
    Ends (l.mapM f) R ↔ (∀ b ∈ l, c b) ∧ R (l.map g) := by
  induction l generalizing R with
  | nil => simp
  | cons b l ih =>
      obtain ⟨hb, hl⟩ := List.forall_mem_cons.1 h
      rw [List.mapM_cons, ends_bind, hb, ends_bind, ih hl, List.forall_mem_cons, and_assoc]
      simp only [ends_pure, List.map_cons]

/-- All calls end when each does. -/
theorem ends_mapM_true {γ : Type} {l : List β} {f : β → Except ε γ} :
    (Ends (l.mapM f) fun _ => True) ↔ ∀ b ∈ l, Ends (f b) fun _ => True := by
  induction l with
  | nil => simp
  | cons b l ih =>
      have hconst : (Ends (f b) fun _ => Ends (l.mapM f) fun _ => True) ↔
          (Ends (f b) fun _ => True) ∧ Ends (l.mapM f) fun _ => True := by
        rw [← ends_and]
        simp only [true_and]
      rw [List.mapM_cons, List.forall_mem_cons, ← ih, ← hconst]
      simp only [ends_bind, ends_pure]

/-! ## Accesses -/

/-- Null, or a block of that many bytes. -/
abbrev Block := Option ℕ

namespace Block

/-- The first `size` bytes are there. -/
def Holds : Block → ℕ → Prop
  | none, size => size = 0
  | some bytes, size => size ≤ bytes

instance : (b : Block) → (size : ℕ) → Decidable (b.Holds size)
  | none, size => inferInstanceAs (Decidable (size = 0))
  | some bytes, size => inferInstanceAs (Decidable (size ≤ bytes))

@[simp]
theorem holds_none {size : ℕ} : Holds none size ↔ size = 0 := Iff.rfl

@[simp]
theorem holds_some {bytes size : ℕ} : Holds (some bytes) size ↔ size ≤ bytes := Iff.rfl

theorem Holds.mono {b : Block} {m n : ℕ} (h : b.Holds n) (hmn : m ≤ n) : b.Holds m := by
  cases b with
  | none =>
      rw [holds_none] at h ⊢
      omega
  | some bytes => exact Nat.le_trans hmn h

/-- All elements below `n` are there if the last one is. -/
theorem holds_elements {b : Block} {n size : ℕ} :
    (∀ i < n, b.Holds ((i + 1) * size)) ↔ b.Holds (n * size) := by
  refine ⟨fun h => ?_, fun h i hi => h.mono (Nat.mul_le_mul_right size hi)⟩
  cases n with
  | zero =>
      rw [Nat.zero_mul]
      cases b with
      | none => rfl
      | some bytes => exact Nat.zero_le bytes
  | succ n => exact h n (Nat.lt_succ_self n)

end Block

/-- The first `size` bytes are read or written. -/
def touch (e : ε) (b : Block) (size : ℕ) : Except ε Unit := if b.Holds size then .ok () else .error e

/-- `b[i]`, with elements of `size` bytes. -/
def element (e : ε) (size : ℕ) (b : Block) (i : ℕ) : Except ε Unit := touch e b ((i + 1) * size)

@[simp]
theorem ends_touch {e : ε} {b : Block} {size : ℕ} {R : Unit → Prop} :
    Ends (touch e b size) R ↔ b.Holds size ∧ R () := by
  unfold touch
  split
  · next h => simp [h]
  · next h => simp [h]

@[simp]
theorem ends_element {e : ε} {size : ℕ} {b : Block} {i : ℕ} {R : Unit → Prop} :
    Ends (element e size b i) R ↔ b.Holds ((i + 1) * size) ∧ R () :=
  ends_touch

/-! ## Blocks written into an object

A `Write` copies a block to an offset of an object, as `memcpy` does; memory is a function from offsets,
defined past the end of the object as well. Writes that stay within the object leave what lies behind
it alone. -/

/-- `data` is copied to offset `dst`. -/
structure Write (α : Type) where
  dst : ℕ
  data : List α
  deriving DecidableEq, Repr

variable {α : Type}

def Write.apply (mem : ℕ → α) (w : Write α) : ℕ → α := fun i =>
  if w.dst ≤ i then w.data.getD (i - w.dst) (mem i) else mem i

def applyWrites (mem : ℕ → α) (ws : List (Write α)) : ℕ → α :=
  ws.foldl Write.apply mem

/-- Every write ends before the end of an object of `size` cells. -/
def WritesWithin (size : ℕ) (ws : List (Write α)) : Prop :=
  ∀ w ∈ ws, w.dst + w.data.length ≤ size

instance (size : ℕ) (ws : List (Write α)) : Decidable (WritesWithin size ws) :=
  inferInstanceAs (Decidable (∀ w ∈ ws, w.dst + w.data.length ≤ size))

variable {size : ℕ} {ws ws' : List (Write α)}

theorem writesWithin_append :
    WritesWithin size (ws ++ ws') ↔ WritesWithin size ws ∧ WritesWithin size ws' :=
  List.forall_mem_append

end SmartPlat.Lib
