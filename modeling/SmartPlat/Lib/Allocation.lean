import Mathlib.Data.Finset.Insert
import Mathlib.Data.Nat.Notation
import Mathlib.Logic.Function.Basic
import Mathlib.Tactic.Common

set_option autoImplicit false

/-! # Allocation and release of blocks and descriptors

Every allocation gives out a block of its own, and a pointer is a block and an offset into it. A block
is released through the pointer the allocation returned, at offset `0`, and once; every other release is
recorded as invalid, and stays so. -/

namespace SmartPlat.Lib

structure Pointer where
  block : ℕ
  offset : ℕ
  deriving DecidableEq, Repr

/-- What has been allocated, the blocks `0 … allocated - 1`; what has been released of it; and the
    pointers that were given to `free` and were not the start of a live block. -/
structure Heap where
  allocated : ℕ
  freed : Finset ℕ
  invalid : List Pointer
  deriving DecidableEq

namespace Heap

def init : Heap := ⟨0, ∅, []⟩

/-- Allocated and not released. -/
def Live (h : Heap) (b : ℕ) : Prop := b < h.allocated ∧ b ∉ h.freed

instance (h : Heap) (b : ℕ) : Decidable (h.Live b) := inferInstanceAs (Decidable (_ ∧ _))

/-- The pointer to the block that is allocated next. -/
def next (h : Heap) : Pointer := ⟨h.allocated, 0⟩

def malloc (h : Heap) : Heap := { h with allocated := h.allocated + 1 }

def free (h : Heap) (p : Pointer) : Heap :=
  if p.offset = 0 ∧ h.Live p.block then { h with freed := insert p.block h.freed }
  else { h with invalid := h.invalid ++ [p] }

variable {h : Heap} {b b' : ℕ} {p : Pointer}

theorem Live.ne_next (hb : h.Live b) : b ≠ h.next.block := Nat.ne_of_lt hb.1

/-! ## `malloc` -/

theorem Live.malloc (hb : h.Live b) : h.malloc.Live b := ⟨Nat.lt_succ_of_lt hb.1, hb.2⟩

/-- Nothing has been released that was not allocated. -/
def Bounded (h : Heap) : Prop := ∀ b ∈ h.freed, b < h.allocated

theorem bounded_init : init.Bounded := fun _ hb => absurd hb (Finset.notMem_empty _)

theorem Bounded.malloc (hh : h.Bounded) : h.malloc.Bounded :=
  fun b hb => Nat.lt_succ_of_lt (hh b hb)

theorem live_next (hh : h.Bounded) : h.malloc.Live h.next.block :=
  ⟨Nat.lt_succ_self _, fun hb => Nat.lt_irrefl _ (hh _ hb)⟩

theorem live_malloc_iff (hh : h.Bounded) : h.malloc.Live b ↔ h.Live b ∨ b = h.next.block := by
  constructor
  · intro ⟨hlt, hfreed⟩
    rcases Nat.lt_succ_iff_lt_or_eq.1 hlt with hlt | heq
    · exact .inl ⟨hlt, hfreed⟩
    · exact .inr heq
  · rintro (hb | rfl)
    · exact hb.malloc
    · exact live_next hh

/-! ## `free` -/

theorem free_of_live (hp : p.offset = 0) (hb : h.Live p.block) :
    h.free p = { h with freed := insert p.block h.freed } := if_pos ⟨hp, hb⟩

theorem free_of_not_live (hp : ¬ (p.offset = 0 ∧ h.Live p.block)) :
    h.free p = { h with invalid := h.invalid ++ [p] } := if_neg hp

@[simp]
theorem free_allocated : (h.free p).allocated = h.allocated := by
  unfold free
  split <;> rfl

theorem freed_subset_free : h.freed ⊆ (h.free p).freed := by
  unfold free
  split
  · exact Finset.subset_insert _ _
  · exact Finset.Subset.refl _

/-- What was invalid stays so. -/
theorem free_invalid_ne (hi : h.invalid ≠ []) : (h.free p).invalid ≠ [] := by
  unfold free
  split
  · exact hi
  · exact List.append_ne_nil_of_right_ne_nil _ (List.cons_ne_nil _ _)

/-- A block is released through no pointer into its middle. -/
theorem free_interior_ne (hp : p.offset ≠ 0) : (h.free p).invalid ≠ [] := by
  rw [free_of_not_live fun hl => hp hl.1]
  exact List.append_ne_nil_of_right_ne_nil _ (List.cons_ne_nil _ _)

/-- A block is not released twice. -/
theorem free_twice_ne (hb : p.block ∈ h.freed) : (h.free p).invalid ≠ [] := by
  rw [free_of_not_live fun hl => hl.2.2 hb]
  exact List.append_ne_nil_of_right_ne_nil _ (List.cons_ne_nil _ _)

/-- After a `free` of a pointer to the start of a block, the block is released or the call was invalid. -/
theorem freed_or_invalid (hb : b < h.allocated) :
    b ∈ (h.free ⟨b, 0⟩).freed ∨ (h.free ⟨b, 0⟩).invalid ≠ [] := by
  by_cases hfreed : b ∈ h.freed
  · exact .inr (free_twice_ne hfreed)
  · rw [free_of_live rfl ⟨hb, hfreed⟩]
    exact .inl (Finset.mem_insert_self _ _)

theorem live_free_iff (hb' : h.Live b') : (h.free ⟨b', 0⟩).Live b ↔ h.Live b ∧ b ≠ b' := by
  rw [free_of_live rfl hb']
  unfold Live
  rw [Finset.mem_insert]
  tauto

theorem Bounded.free (hh : h.Bounded) (hb : h.Live b) : (h.free ⟨b, 0⟩).Bounded := by
  rw [free_of_live rfl hb]
  intro b' hb'
  rcases Finset.mem_insert.1 hb' with rfl | hb'
  · exact hb.1
  · exact hh b' hb'

end Heap

/-! ## Descriptors

The table of a process from descriptor numbers to open files. A number that has been closed is given out
again; files are numbered in the order in which they are opened, so that a number can be told to stand
for a newer file. -/

structure Descriptors where
  file : ℕ → Option ℕ
  /-- The file that is opened next. -/
  next : ℕ
  opened : ∀ {fd k}, file fd = some k → k < next

namespace Descriptors

variable (t : Descriptors)

/-- The number that the kernel gives out. -/
def Lowest (fd : ℕ) : Prop := t.file fd = none ∧ ∀ e < fd, (t.file e).isSome = true

instance (fd : ℕ) : Decidable (t.Lowest fd) :=
  inferInstanceAs (Decidable (t.file fd = none ∧ ∀ e < fd, (t.file e).isSome = true))

/-- A new file is opened at that number. -/
def openAt (fd : ℕ) : Descriptors where
  file := Function.update t.file fd (some t.next)
  next := t.next + 1
  opened := by
    intro e k h
    by_cases he : e = fd
    · subst he
      rw [Function.update_self, Option.some.injEq] at h
      omega
    · rw [Function.update_of_ne he] at h
      exact Nat.lt_succ_of_lt (t.opened h)

/-- `close(fd)`; of a number that is not in use it does nothing. -/
def closeAt (fd : ℕ) : Descriptors where
  file := Function.update t.file fd none
  next := t.next
  opened := by
    intro e k h
    by_cases he : e = fd
    · subst he
      rw [Function.update_self] at h
      exact nomatch h
    · rw [Function.update_of_ne he] at h
      exact t.opened h

variable {t}

@[simp]
theorem file_closeAt_self (fd : ℕ) : (t.closeAt fd).file fd = none := Function.update_self ..

@[simp]
theorem next_openAt (fd : ℕ) : (t.openAt fd).next = t.next + 1 := rfl

@[simp]
theorem next_closeAt (fd : ℕ) : (t.closeAt fd).next = t.next := rfl

/-! ## Numbers that have lost their file -/

/-- The number does not stand for that file, which has been opened before. -/
def Stale (t : Descriptors) (fd k : ℕ) : Prop := t.file fd ≠ some k ∧ k < t.next

theorem Stale.openAt {fd k : ℕ} (h : t.Stale fd k) (e : ℕ) : (t.openAt e).Stale fd k := by
  refine ⟨?_, Nat.lt_succ_of_lt h.2⟩
  by_cases he : fd = e
  · subst he
    have hfile : (t.openAt fd).file fd = some t.next := Function.update_self ..
    rw [hfile, ne_eq, Option.some.injEq]
    exact (Nat.ne_of_lt h.2).symm
  · have hfile : (t.openAt e).file fd = t.file fd := Function.update_of_ne he ..
    rw [hfile]
    exact h.1

theorem Stale.closeAt {fd k : ℕ} (h : t.Stale fd k) (e : ℕ) : (t.closeAt e).Stale fd k := by
  refine ⟨?_, h.2⟩
  by_cases he : fd = e
  · subst he
    rw [file_closeAt_self]
    exact nofun
  · have hfile : (t.closeAt e).file fd = t.file fd := Function.update_of_ne he ..
    rw [hfile]
    exact h.1

theorem stale_closeAt {fd k : ℕ} (hk : k < t.next) : (t.closeAt fd).Stale fd k := by
  refine ⟨?_, hk⟩
  rw [file_closeAt_self]
  exact nofun

end Descriptors

end SmartPlat.Lib
