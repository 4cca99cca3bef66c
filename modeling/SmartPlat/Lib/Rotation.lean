import Mathlib.Data.List.Basic
import Mathlib.Data.Nat.ModEq
import Mathlib.Data.Nat.Notation
import Mathlib.Logic.Function.Basic
import Mathlib.Tactic.Common

set_option autoImplicit false

/-! # Files that take turns

A text is written into files one after the other, and when the last of `N` files has had its turn, the first
one is emptied and used again. The files then hold the last segments of the text, in the order in which the
next turn would come to them. -/

namespace SmartPlat.Lib

variable {α κ : Type*}

/-- The number of the file with segment `j` of the text; the numbers are those from `1` to `N`. -/
def slotOf (N j : ℕ) : ℕ := j % N + 1

def nextSlot (N s : ℕ) : ℕ := if s + 1 > N then 1 else s + 1

theorem nextSlot_slotOf {N : ℕ} (hN : 0 < N) (j : ℕ) : nextSlot N (slotOf N j) = slotOf N (j + 1) := by
  have hlt := Nat.mod_lt j hN
  unfold nextSlot slotOf
  split
  · next hlast =>
      have hmod : j % N = N - 1 := by omega
      rw [← Nat.mod_add_mod, hmod, Nat.sub_add_cancel hN, Nat.mod_self]
  · next hlast =>
      have hstep : (j + 1) % N = j % N + 1 := by rw [← Nat.mod_add_mod, Nat.mod_eq_of_lt (by omega)]
      rw [hstep]

/-- Segments that are less than a turn apart are in different files. -/
theorem slotOf_ne {N j k : ℕ} (hjk : j < k) (hnear : k < j + N) : slotOf N j ≠ slotOf N k := by
  intro h
  have hmod : j ≡ k [MOD N] := Nat.succ_injective h
  have hdvd : N ∣ k - j := (Nat.modEq_iff_dvd' (Nat.le_of_lt hjk)).1 hmod
  have hle := Nat.le_of_dvd (Nat.sub_pos_of_lt hjk) hdvd
  omega

theorem filterMap_range_getElem? (l : List α) : ((List.range l.length).filterMap fun i => l[i]?) = l := by
  induction l with
  | nil => rfl
  | cons a l ih =>
      rw [List.length_cons, List.range_succ_eq_map, List.filterMap_cons, List.filterMap_map]
      simp only [List.getElem?_cons_zero, Function.comp_def, List.getElem?_cons_succ, ih]

/-- `segments` is all that was ever written, and `seq` the file in use. -/
structure Rotated (N : ℕ) (name : ℕ → κ) (files : κ → Option (List α)) (seq : ℕ)
    (segments : List (List α)) : Prop where
  some_segment : segments ≠ []
  seq_eq : seq = slotOf N (segments.length - 1)
  held : ∀ j seg, segments[j]? = some seg → segments.length ≤ j + N → files (name (slotOf N j)) = some seg
  unused : ∀ s, (∀ j < segments.length, s ≠ slotOf N j) → files (name s) = none

/-- What the files hold, the oldest first. -/
def keptSegments (N : ℕ) (name : ℕ → κ) (files : κ → Option (List α)) (seq : ℕ) : List (List α) :=
  (List.range N).filterMap fun i => files (name ((seq + i) % N + 1))

section

variable {N seq : ℕ} {name : ℕ → κ} {files : κ → Option (List α)} {segments : List (List α)} {seg seg' : List α}

theorem rotated_start (hfiles : ∀ s, files (name s) = if s = 1 then some seg else none) :
    Rotated N name files 1 [seg] where
  some_segment := List.cons_ne_nil _ _
  seq_eq := by simp [slotOf]
  held := by
    intro j seg' hj _
    cases j with
    | zero =>
        rw [List.getElem?_cons_zero, Option.some.injEq] at hj
        rw [slotOf, Nat.zero_mod, hfiles, if_pos rfl, hj]
    | succ j => simp at hj
  unused := by
    intro s hs
    have h1 := hs 0 Nat.zero_lt_one
    rw [slotOf, Nat.zero_mod] at h1
    rw [hfiles, if_neg h1]

/-- Other files do not matter. -/
theorem Rotated.congr {files' : κ → Option (List α)} (h : Rotated N name files seq segments)
    (hsame : ∀ s, files' (name s) = files (name s)) : Rotated N name files' seq segments :=
  ⟨h.some_segment, h.seq_eq, fun j seg hj hlen => (hsame _).trans (h.held j seg hj hlen),
    fun s hs => (hsame s).trans (h.unused s hs)⟩

theorem Rotated.seq_pos (h : Rotated N name files seq segments) : 0 < seq := by
  rw [h.seq_eq]
  exact Nat.succ_pos _

theorem Rotated.seq_le (h : Rotated N name files seq segments) (hN : 0 < N) : seq ≤ N := by
  rw [h.seq_eq]
  exact Nat.mod_lt _ hN

theorem Rotated.current (h : Rotated N name files seq (segments ++ [seg])) (hN : 0 < N) :
    files (name seq) = some seg := by
  have hheld := h.held segments.length seg (by simp) (by simp; omega)
  rw [h.seq_eq, List.length_append, List.length_singleton, Nat.add_sub_cancel]
  exact hheld

/-- **What is left of the text** are its last segments, as many as there are files. -/
theorem Rotated.keptSegments_eq (h : Rotated N name files seq segments) (hN : 0 < N) :
    keptSegments N name files seq = segments.drop (segments.length - N) := by
  have hpos := List.length_pos_iff.2 h.some_segment
  have hslot : ∀ i, (seq + i) % N + 1 = slotOf N (segments.length + i) := fun i => by
    rw [h.seq_eq, slotOf, slotOf, Nat.add_assoc, Nat.mod_add_mod]
    congr 2
    omega
  -- The files in front of the first segment have not been used.
  have hunused : ∀ i < N - segments.length, files (name ((seq + i) % N + 1)) = none := fun i hi => by
    refine h.unused _ fun j hj heq => ?_
    rw [hslot] at heq
    exact slotOf_ne (by omega) (by omega) heq.symm
  have hheld : ∀ i < N - (N - segments.length),
      files (name ((seq + (N - segments.length + i)) % N + 1)) = segments[segments.length - N + i]? := by
    intro i hi
    have hlt : segments.length - N + i < segments.length := by omega
    have hsame : slotOf N (segments.length + (N - segments.length + i)) =
        slotOf N (segments.length - N + i) := by
      have hadd : segments.length + (N - segments.length + i) = segments.length - N + i + N := by omega
      rw [slotOf, slotOf, hadd, Nat.add_mod_right]
    rw [hslot, hsame, List.getElem?_eq_getElem hlt]
    exact h.held _ _ (List.getElem?_eq_getElem hlt) (by omega)
  have hrange : List.range N = List.range (N - segments.length) ++
      (List.range (segments.drop (segments.length - N)).length).map fun i => N - segments.length + i := by
    rw [← List.range_add, List.length_drop]
    congr 1
    omega
  have hfront : ((List.range (N - segments.length)).filterMap fun i => files (name ((seq + i) % N + 1))) = [] :=
    List.filterMap_eq_nil_iff.2 fun i hi => hunused i (List.mem_range.1 hi)
  rw [keptSegments, hrange, List.filterMap_append, hfront, List.nil_append, List.filterMap_map]
  conv_rhs => rw [← filterMap_range_getElem? (segments.drop (segments.length - N))]
  refine List.filterMap_congr fun i hi => ?_
  rw [List.mem_range, List.length_drop] at hi
  rw [Function.comp_apply, hheld i (by omega), List.getElem?_drop]

variable [DecidableEq κ]

/-- The file in use is written. -/
theorem Rotated.write (h : Rotated N name files seq (segments ++ [seg])) (hname : Function.Injective name) :
    Rotated N name (Function.update files (name seq) (some seg')) seq (segments ++ [seg']) := by
  have hseq := h.seq_eq
  rw [List.length_append, List.length_singleton, Nat.add_sub_cancel] at hseq
  refine ⟨by simp, by simpa using hseq, fun j s hj hlen => ?_, fun s hs => ?_⟩
  · rw [List.length_append, List.length_singleton] at hlen
    by_cases hlast : j = segments.length
    · subst hlast
      rw [List.getElem?_append_right (Nat.le_refl _), Nat.sub_self, List.getElem?_cons_zero] at hj
      rw [hseq, Function.update_self, hj]
    · have hlt : j < segments.length := by
        obtain ⟨hlt, -⟩ := List.getElem?_eq_some_iff.1 hj
        rw [List.length_append, List.length_singleton] at hlt
        omega
      rw [List.getElem?_append_left hlt] at hj
      have hne : name (slotOf N j) ≠ name seq := fun heq =>
        slotOf_ne hlt (by omega) ((hname heq).trans hseq)
      rw [Function.update_of_ne hne]
      exact h.held j s (by rw [List.getElem?_append_left hlt, hj]) (by simpa using hlen)
  · rw [List.length_append, List.length_singleton] at hs
    have hne : name s ≠ name seq := fun heq => hs _ (Nat.lt_succ_self _) ((hname heq).trans hseq)
    rw [Function.update_of_ne hne]
    exact h.unused s (by simpa using hs)

/-- The next file is emptied and in use. -/
theorem Rotated.rotate (h : Rotated N name files seq segments) (hN : 0 < N) (hname : Function.Injective name) :
    Rotated N name (Function.update files (name (nextSlot N seq)) (some [])) (nextSlot N seq)
      (segments ++ [[]]) := by
  have hpos := List.length_pos_iff.2 h.some_segment
  have hnext : nextSlot N seq = slotOf N segments.length := by
    rw [h.seq_eq, nextSlot_slotOf hN, Nat.sub_add_cancel hpos]
  refine ⟨by simp, by simp [hnext], fun j s hj hlen => ?_, fun s hs => ?_⟩
  · rw [List.length_append, List.length_singleton] at hlen
    by_cases hlast : j = segments.length
    · subst hlast
      rw [List.getElem?_append_right (Nat.le_refl _), Nat.sub_self, List.getElem?_cons_zero] at hj
      rw [hnext, Function.update_self, hj]
    · have hlt : j < segments.length := by
        obtain ⟨hlt, -⟩ := List.getElem?_eq_some_iff.1 hj
        rw [List.length_append, List.length_singleton] at hlt
        omega
      rw [List.getElem?_append_left hlt] at hj
      have hne : name (slotOf N j) ≠ name (nextSlot N seq) := fun heq =>
        slotOf_ne hlt (by omega) ((hname heq).trans hnext)
      rw [Function.update_of_ne hne]
      exact h.held j s hj (by omega)
  · rw [List.length_append, List.length_singleton] at hs
    have hne : name s ≠ name (nextSlot N seq) := fun heq =>
      hs _ (Nat.lt_succ_self _) ((hname heq).trans hnext)
    rw [Function.update_of_ne hne]
    exact h.unused s fun j hj => hs j (Nat.lt_succ_of_lt hj)

end

end SmartPlat.Lib
