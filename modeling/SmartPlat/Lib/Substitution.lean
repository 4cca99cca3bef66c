import Mathlib.Data.Set.Image
import Mathlib.Logic.Equiv.Basic
import Mathlib.Tactic.Common

set_option autoImplicit false

/-! # Substitution by two books

A book assigns a symbol to every place. A symbol is translated from one book to another by looking its
place up in the first and reading that place of the second; a symbol that is not in the first book
stays as it is. Two books with the same symbols, each symbol once, translate back and forth without
loss. Exchanging cells of a book makes another book with the same symbols. -/

namespace SmartPlat.Lib

variable {ι α : Type*}

/-- `c` by way of the first place that holds it. -/
def translate [DecidableEq α] (places : List ι) (src dst : ι → α) (c : α) : α :=
  match places.find? fun i => src i = c with
  | some i => dst i
  | none => c

/-- The same symbols in other places. -/
def Rearranged (b b' : ι → α) : Prop := ∃ p : Equiv.Perm ι, b' = b ∘ p

/-- Exchange the symbols of two cells. -/
def swapCells [DecidableEq ι] (book : ι → α) (i j : ι) : ι → α :=
  fun k => if k = j then book i else if k = i then book j else book k

variable {b b' b'' : ι → α}

/-! ## Rearranging -/

theorem Rearranged.refl (b : ι → α) : Rearranged b b := ⟨Equiv.refl ι, rfl⟩

theorem Rearranged.trans (h : Rearranged b b') (h' : Rearranged b' b'') : Rearranged b b'' := by
  obtain ⟨p, rfl⟩ := h
  obtain ⟨q, rfl⟩ := h'
  exact ⟨q.trans p, rfl⟩

theorem Rearranged.injective (h : Rearranged b b') (hb : Function.Injective b) :
    Function.Injective b' := by
  obtain ⟨p, rfl⟩ := h
  exact hb.comp p.injective

theorem Rearranged.range_eq (h : Rearranged b b') : Set.range b' = Set.range b := by
  obtain ⟨p, rfl⟩ := h
  exact p.surjective.range_comp b

theorem rearranged_swapCells [DecidableEq ι] (b : ι → α) (i j : ι) :
    Rearranged b (swapCells b i j) := by
  refine ⟨Equiv.swap i j, funext fun k => ?_⟩
  rw [swapCells, Function.comp_apply, Equiv.swap_apply_def]
  by_cases hi : k = i
  · rw [if_pos hi, if_pos hi]
    split
    · next hj => rw [← hi, hj]
    · rfl
  · rw [if_neg hi, if_neg hi]
    split <;> rfl

/-- Rearrangements one after the other. -/
theorem Rearranged.foldl {κ : Type*} {f : (ι → α) → κ → ι → α}
    (hf : ∀ b k, Rearranged b (f b k)) (l : List κ) (b : ι → α) : Rearranged b (l.foldl f b) := by
  induction l generalizing b with
  | nil => exact .refl b
  | cons k l ih => exact (hf b k).trans (ih _)

/-! ## There and back -/

section Translate

variable [DecidableEq α] {places : List ι} {src dst : ι → α} {c : α}

theorem translate_of_place (hmem : ∀ i, i ∈ places) (hsrc : Function.Injective src) (i : ι) :
    translate places src dst (src i) = dst i := by
  unfold translate
  split
  · next j hj =>
      have h : src j = src i := by simpa using List.find?_some hj
      rw [hsrc h]
  · next hnone =>
      have h := List.find?_eq_none.1 hnone i (hmem i)
      exact absurd (decide_eq_true rfl) h

theorem translate_of_notMem (hc : c ∉ Set.range src) : translate places src dst c = c := by
  unfold translate
  split
  · next j hj =>
      have h : src j = c := by simpa using List.find?_some hj
      exact absurd ⟨j, h⟩ hc
  · rfl

/-- **Books with the same symbols translate back and forth.** -/
theorem translate_translate (hmem : ∀ i, i ∈ places) (hsrc : Function.Injective src)
    (hdst : Function.Injective dst) (hrange : Set.range dst = Set.range src) (c : α) :
    translate places dst src (translate places src dst c) = c := by
  by_cases hc : c ∈ Set.range src
  · obtain ⟨i, rfl⟩ := hc
    rw [translate_of_place hmem hsrc, translate_of_place hmem hdst]
  · rw [translate_of_notMem hc, translate_of_notMem (hrange ▸ hc)]

end Translate

end SmartPlat.Lib
