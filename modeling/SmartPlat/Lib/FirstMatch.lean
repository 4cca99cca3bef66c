import Mathlib.Data.List.Nodup
import Mathlib.Logic.Function.Basic
import Mathlib.Tactic.Common

set_option autoImplicit false

/-! # Lists searched by key

A list of records in which a search by key stops at the first match, as a linked list does; an
update or a removal goes to the record the search found. As long as the keys are distinct, such a
list is a finite map from keys to records, and the lemmas at the end say which map each operation
leaves. -/

namespace SmartPlat.Lib

variable {α κ : Type*} [DecidableEq κ] (key : α → κ)

/-- The first record with key `k`. -/
def lookup (k : κ) (l : List α) : Option α := l.find? fun a => key a = k

/-- Update the first record with key `k`. -/
def modifyFirst (k : κ) (f : α → α) : List α → List α
  | [] => []
  | a :: l => if key a = k then f a :: l else a :: modifyFirst k f l

/-- Remove the first record with key `k`. -/
def eraseFirst (k : κ) (l : List α) : List α := l.eraseP fun a => key a = k

variable {key} {l : List α} {a b : α} {k : κ} {f : α → α}

/-! ## Searching -/

theorem lookup_eq_none : lookup key k l = none ↔ ∀ a ∈ l, key a ≠ k := by
  simp only [lookup, List.find?_eq_none, decide_eq_true_iff, ne_eq]

theorem mem_of_lookup (h : lookup key k l = some a) : a ∈ l :=
  List.mem_of_find?_eq_some h

theorem key_of_lookup (h : lookup key k l = some a) : key a = k :=
  decide_eq_true_iff.1 (List.find?_some (p := fun a => decide (key a = k)) h)

theorem lookup_cons : lookup key k (a :: l) = if key a = k then some a else lookup key k l := by
  rw [lookup, List.find?_cons]
  by_cases h : key a = k <;> simp [h, lookup]

/-- A search in a list of images is a search by the key of the image. -/
theorem lookup_map {β : Type*} (g : β → α) (l : List β) :
    lookup key k (l.map g) = (lookup (key ∘ g) k l).map g := List.find?_map

theorem eraseFirst_map {β : Type*} (g : β → α) (l : List β) :
    eraseFirst key k (l.map g) = (eraseFirst (key ∘ g) k l).map g := List.eraseP_map

/-- With distinct keys, a search finds every record under its own key. -/
theorem lookup_of_mem (hl : (l.map key).Nodup) (ha : a ∈ l) : lookup key (key a) l = some a := by
  cases h : lookup key (key a) l with
  | none => exact absurd rfl (lookup_eq_none.1 h a ha)
  | some b => rw [List.inj_on_of_nodup_map hl (mem_of_lookup h) ha (key_of_lookup h)]

/-- A match in the first part of a list hides the second part. -/
theorem mem_of_lookup_append {l' : List α} (h : lookup key k (l ++ l') = some a) (hb : b ∈ l)
    (hk : key b = k) : a ∈ l := by
  rw [lookup, List.find?_append] at h
  cases hl : l.find? fun a => key a = k with
  | none => exact absurd (decide_eq_true hk) (List.find?_eq_none.1 hl b hb)
  | some c =>
      rw [hl, Option.some_or, Option.some.injEq] at h
      exact h ▸ List.mem_of_find?_eq_some hl

/-! ## Updating and removing around the record found -/

/-- The record found splits the list, and the operations act at the split. -/
theorem exists_of_lookup (h : lookup key k l = some a) :
    ∃ l₁ l₂, l = l₁ ++ a :: l₂ ∧ (∀ b ∈ l₁, key b ≠ k) ∧
      (∀ f : α → α, modifyFirst key k f l = l₁ ++ f a :: l₂) ∧ eraseFirst key k l = l₁ ++ l₂ := by
  induction l with
  | nil => simp [lookup] at h
  | cons b l ih =>
      by_cases hb : key b = k
      · rw [lookup_cons, if_pos hb, Option.some.injEq] at h
        subst h
        exact ⟨[], l, rfl, by simp, by simp [modifyFirst, hb], by simp [eraseFirst, hb]⟩
      · rw [lookup_cons, if_neg hb] at h
        obtain ⟨l₁, l₂, hl, hne, hmod, herase⟩ := ih h
        refine ⟨b :: l₁, l₂, by rw [hl]; rfl, ?_, ?_, ?_⟩
        · intro c hc
          rcases List.mem_cons.1 hc with rfl | hc
          · exact hb
          · exact hne c hc
        · intro f
          rw [modifyFirst, if_neg hb, hmod]
          rfl
        · rw [eraseFirst, List.eraseP_cons_of_neg (by simpa using hb)]
          exact congrArg (b :: ·) herase

theorem map_modifyFirst {β : Type*} (g : α → β) (hf : ∀ a, key a = k → g (f a) = g a) :
    (modifyFirst key k f l).map g = l.map g := by
  induction l with
  | nil => rfl
  | cons a l ih =>
      rw [modifyFirst]
      split
      · next h => rw [List.map_cons, List.map_cons, hf a h]
      · rw [List.map_cons, List.map_cons, ih]

/-- An update changes the list as far as it changes the record found. -/
theorem modifyFirst_eq_self_iff (h : lookup key k l = some a) :
    modifyFirst key k f l = l ↔ f a = a := by
  obtain ⟨l₁, l₂, hl, -, hmod, -⟩ := exists_of_lookup h
  rw [hmod, hl]
  simp

/-- The record found is found again if the update leaves its key. -/
theorem lookup_modifyFirst_self (h : lookup key k l = some a) (hfa : key (f a) = k) :
    lookup key k (modifyFirst key k f l) = some (f a) := by
  obtain ⟨l₁, l₂, -, hbefore, hmod, -⟩ := exists_of_lookup h
  have hskip : lookup key k l₁ = none := lookup_eq_none.2 hbefore
  rw [hmod, lookup, List.find?_append, ← lookup, hskip, Option.none_or, ← lookup, lookup_cons, if_pos hfa]

/-- A search by another key that passes over the record, before and after the update. -/
theorem lookup_modifyFirst_other {κ' : Type*} [DecidableEq κ'] {key' : α → κ'} {k' : κ'}
    (hskip : ∀ a, key a = k → key' a ≠ k' ∧ key' (f a) ≠ k') :
    lookup key' k' (modifyFirst key k f l) = lookup key' k' l := by
  induction l with
  | nil => rfl
  | cons a l ih =>
      rw [modifyFirst]
      split
      · next ha =>
          obtain ⟨hbefore, hafter⟩ := hskip a ha
          rw [lookup_cons, lookup_cons, if_neg hbefore, if_neg hafter]
      · rw [lookup_cons, lookup_cons, ih]

theorem modifyFirst_of_absent (h : lookup key k l = none) : modifyFirst key k f l = l := by
  induction l with
  | nil => rfl
  | cons a l ih =>
      rw [lookup_cons] at h
      split at h
      · cases h
      · next ha => rw [modifyFirst, if_neg ha, ih h]

theorem eraseFirst_of_absent (h : lookup key k l = none) : eraseFirst key k l = l :=
  List.eraseP_of_forall_not fun a ha => by simpa using lookup_eq_none.1 h a ha

@[simp]
theorem length_modifyFirst : (modifyFirst key k f l).length = l.length := by
  induction l with
  | nil => rfl
  | cons a l ih =>
      rw [modifyFirst]
      split
      · rfl
      · rw [List.length_cons, List.length_cons, ih]

theorem eraseFirst_sublist : (eraseFirst key k l).Sublist l :=
  List.eraseP_sublist

theorem eraseFirst_ne_self (h : (lookup key k l).isSome) : eraseFirst key k l ≠ l := by
  obtain ⟨a, ha⟩ := Option.isSome_iff_exists.1 h
  obtain ⟨l₁, l₂, hl, -, -, herase⟩ := exists_of_lookup ha
  rw [herase, hl]
  intro heq
  have hlength := congrArg List.length heq
  simp at hlength

/-- Removing the first record with a key removes all of them when there is at most one. -/
theorem eraseFirst_eq_filter_iff :
    eraseFirst key k l = l.filter (fun a => key a ≠ k) ↔ l.countP (fun a => key a = k) ≤ 1 := by
  induction l with
  | nil => simp [eraseFirst]
  | cons a l ih =>
      by_cases ha : key a = k
      · rw [eraseFirst, List.eraseP_cons_of_pos (by simpa using ha),
          List.filter_cons_of_neg (by simpa using ha), List.countP_cons_of_pos (by simpa using ha),
          show ∀ n : ℕ, n + 1 ≤ 1 ↔ n = 0 by omega, List.countP_eq_zero, eq_comm, List.filter_eq_self]
        simp only [decide_eq_true_iff, ne_eq]
      · rw [eraseFirst, List.eraseP_cons_of_neg (by simpa using ha),
          List.filter_cons_of_pos (by simpa using ha), List.countP_cons_of_neg (by simpa using ha),
          List.cons_inj_right]
        exact ih

/-- A filter that drops the record found, before and after the update, does not see the update. -/
theorem filter_modifyFirst {p : α → Bool} (h : lookup key k l = some a) (ha : p a = false)
    (hfa : p (f a) = false) : (modifyFirst key k f l).filter p = l.filter p := by
  obtain ⟨l₁, l₂, hl, -, hmod, -⟩ := exists_of_lookup h
  rw [hmod, hl, List.filter_append, List.filter_append, List.filter_cons_of_neg (by simp [hfa]),
    List.filter_cons_of_neg (by simp [ha])]

theorem filter_eraseFirst {p : α → Bool} (h : lookup key k l = some a) (ha : p a = false) :
    (eraseFirst key k l).filter p = l.filter p := by
  obtain ⟨l₁, l₂, hl, -, -, herase⟩ := exists_of_lookup h
  rw [herase, hl, List.filter_append, List.filter_append, List.filter_cons_of_neg (by simp [ha])]

/-! ## Distinct columns -/

/-- A column stays distinct when the record found gets a value no other record has. -/
theorem nodup_map_modifyFirst {β : Type*} {g : α → β} (hl : (l.map g).Nodup)
    (h : lookup key k l = some a) (hfresh : ∀ b ∈ l, g b = g (f a) → g b = g a) :
    ((modifyFirst key k f l).map g).Nodup := by
  obtain ⟨l₁, l₂, rfl, -, hmod, -⟩ := exists_of_lookup h
  rw [hmod]
  rw [List.map_append, List.map_cons, List.nodup_middle, List.nodup_cons] at hl ⊢
  refine ⟨?_, hl.2⟩
  rw [← List.map_append, List.mem_map]
  intro ⟨b, hb, hg⟩
  have hb' : b ∈ l₁ ++ a :: l₂ := by
    rw [List.mem_append] at hb
    rw [List.mem_append, List.mem_cons]
    exact hb.imp_right .inr
  refine hl.1 ?_
  rw [← hfresh b hb' hg, ← List.map_append]
  exact List.mem_map_of_mem hb

/-- And only then. -/
theorem nodup_map_modifyFirst_iff {β : Type*} {g : α → β} (hl : (l.map g).Nodup)
    (h : lookup key k l = some a) :
    ((modifyFirst key k f l).map g).Nodup ↔ ∀ b ∈ l, g b = g (f a) → g b = g a := by
  refine ⟨fun hmod b hb hg => ?_, nodup_map_modifyFirst hl h⟩
  obtain ⟨l₁, l₂, rfl, -, hsplit, -⟩ := exists_of_lookup h
  rw [hsplit, List.map_append, List.map_cons, List.nodup_middle, List.nodup_cons,
    ← List.map_append] at hmod
  by_contra hne
  have hb' : b ∈ l₁ ++ l₂ := by
    rw [List.mem_append, List.mem_cons] at hb
    rcases hb with hb | rfl | hb
    · exact List.mem_append_left _ hb
    · exact absurd rfl hne
    · exact List.mem_append_right _ hb
  exact hmod.1 (hg ▸ List.mem_map_of_mem hb')

theorem nodup_map_eraseFirst {β : Type*} {g : α → β} (hl : (l.map g).Nodup) :
    ((eraseFirst key k l).map g).Nodup :=
  hl.sublist (eraseFirst_sublist.map g)

theorem nodup_map_append {β : Type*} {g : α → β} {l' : List α} (hl : (l.map g).Nodup)
    (hl' : (l'.map g).Nodup) (hne : ∀ b ∈ l', ∀ a ∈ l, g a ≠ g b) : ((l ++ l').map g).Nodup := by
  rw [List.map_append, List.nodup_append]
  refine ⟨hl, hl', ?_⟩
  simp only [List.mem_map]
  rintro _ ⟨a, ha, rfl⟩ _ ⟨b, hb, rfl⟩
  exact hne b hb a ha

theorem nodup_map_concat {β : Type*} {g : α → β} (hl : (l.map g).Nodup)
    (hfresh : ∀ b ∈ l, g b ≠ g a) : ((l ++ [a]).map g).Nodup :=
  nodup_map_append hl (List.nodup_singleton _) (by simpa using hfresh)

/-! ## The map of a list with distinct keys -/

theorem lookup_append_of_fresh {l' : List α} (hfresh : ∀ a ∈ l', key a ≠ k) :
    lookup key k (l ++ l') = lookup key k l := by
  rw [lookup, List.find?_append, ← lookup, ← lookup, lookup_eq_none.2 hfresh, Option.or_none]

/-- A record with a new key is the only new entry of the map. -/
theorem lookup_concat (hfresh : ∀ b ∈ l, key b ≠ key a) (k : κ) :
    lookup key k (l ++ [a]) = Function.update (fun k => lookup key k l) (key a) (some a) k := by
  by_cases hk : k = key a
  · subst hk
    rw [Function.update_self, lookup, List.find?_append, ← lookup, lookup_eq_none.2 hfresh]
    simp
  · rw [Function.update_of_ne hk]
    refine lookup_append_of_fresh ?_
    simp only [List.mem_singleton, forall_eq]
    exact Ne.symm hk

/-- Replacing the record found by another moves one entry of the map, provided nobody else has the
    new key. -/
theorem lookup_modifyFirst (hl : (l.map key).Nodup) (h : lookup key k l = some a)
    (hfresh : ∀ b ∈ l, key b = key (f a) → key b = k) (k' : κ) :
    lookup key k' (modifyFirst key k f l) =
      Function.update (Function.update (fun k => lookup key k l) k none) (key (f a))
        (some (f a)) k' := by
  have hka := key_of_lookup h
  have hnd := nodup_map_modifyFirst (f := f) hl h (by simpa only [hka] using hfresh)
  obtain ⟨l₁, l₂, rfl, -, hmod, -⟩ := exists_of_lookup h
  rw [hmod] at hnd ⊢
  by_cases h1 : k' = key (f a)
  · subst h1
    rw [Function.update_self]
    exact lookup_of_mem hnd (by simp)
  · rw [Function.update_of_ne h1]
    have hskip : ∀ c : α, key c ≠ k' → lookup key k' (l₁ ++ c :: l₂) = lookup key k' (l₁ ++ l₂) := by
      intro c hc
      rw [lookup, lookup, List.find?_append, List.find?_append,
        List.find?_cons_of_neg (by simpa using hc)]
    rw [hskip _ (Ne.symm h1)]
    by_cases h2 : k' = k
    · subst h2
      rw [Function.update_self, lookup_eq_none]
      rw [List.map_append, List.map_cons, List.nodup_middle, List.nodup_cons, ← List.map_append,
        List.mem_map] at hl
      intro b hb hkb
      exact hl.1 ⟨b, hb, hkb.trans hka.symm⟩
    · rw [Function.update_of_ne h2, hskip a (by rw [hka]; exact Ne.symm h2)]

/-- Removing the record found removes its entry. -/
theorem lookup_eraseFirst (hl : (l.map key).Nodup) (h : lookup key k l = some a) (k' : κ) :
    lookup key k' (eraseFirst key k l) = Function.update (fun k => lookup key k l) k none k' := by
  have hka := key_of_lookup h
  obtain ⟨l₁, l₂, rfl, -, -, herase⟩ := exists_of_lookup h
  rw [herase]
  by_cases hk : k' = k
  · subst hk
    rw [Function.update_self, lookup_eq_none]
    rw [List.map_append, List.map_cons, List.nodup_middle, List.nodup_cons, ← List.map_append,
      List.mem_map] at hl
    intro b hb hkb
    exact hl.1 ⟨b, hb, hkb.trans hka.symm⟩
  · rw [Function.update_of_ne hk, lookup, lookup, List.find?_append, List.find?_append,
      List.find?_cons_of_neg (by simpa [hka] using Ne.symm hk)]

end SmartPlat.Lib
