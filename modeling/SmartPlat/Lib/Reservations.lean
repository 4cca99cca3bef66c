import Mathlib.Data.Set.Function
import Mathlib.Logic.Function.Basic

set_option autoImplicit false

/-! # Keys that are about to be added

A table whose entries have distinct keys, and threads that each have chosen the key of an entry they
are about to add. As long as a key is chosen only when no entry has it and nobody else has chosen it,
the entries keep distinct keys, and nobody adds a key that somebody else has added since it was
chosen. -/

namespace SmartPlat.Lib

variable {ι τ κ : Type*}

/-- The entries, the key each thread has chosen, and what others have added since. -/
structure Reserved (entries : Set ι) (key : ι → κ) (pending : τ → Option κ)
    (rivals : τ → List κ) : Prop where
  distinct : entries.InjOn key
  fresh : ∀ t k, pending t = some k → ∀ a ∈ entries, key a ≠ k
  apart : ∀ t t' k, t' ≠ t → pending t = some k → pending t' ≠ some k
  rivals : ∀ t k, pending t = some k → k ∉ rivals t

variable {entries entries' : Set ι} {key key' : ι → κ} {pending pending' : τ → Option κ}
  {rivals rivals' : τ → List κ}

/-- Entries and chosen keys may go. -/
theorem Reserved.mono (h : Reserved entries key pending rivals) (hentries : entries' ⊆ entries)
    (hkey : ∀ a ∈ entries', key' a = key a)
    (hpending : ∀ t k, pending' t = some k → pending t = some k)
    (hrivals : ∀ t k, pending' t = some k → k ∈ rivals' t → k ∈ rivals t) :
    Reserved entries' key' pending' rivals' where
  distinct a ha b hb heq :=
    h.distinct (hentries ha) (hentries hb) (by rw [← hkey a ha, ← hkey b hb, heq])
  fresh t k ht a ha := by
    rw [hkey a ha]
    exact h.fresh t k (hpending t k ht) a (hentries ha)
  apart t t' k hne ht ht' := h.apart t t' k hne (hpending t k ht) (hpending t' k ht')
  rivals t k ht hmem := h.rivals t k (hpending t k ht) (hrivals t k ht hmem)

variable [DecidableEq τ] {t : τ} {k : κ}

/-- A thread chooses a key that is free. -/
theorem Reserved.reserve (h : Reserved entries key pending rivals) (hfree : ∀ a ∈ entries, key a ≠ k)
    (hothers : ∀ t', t' ≠ t → pending t' ≠ some k) :
    Reserved entries key (Function.update pending t (some k)) (Function.update rivals t []) := by
  refine ⟨h.distinct, fun t' k' ht' => ?_, fun t₁ t₂ k' hne h₁ h₂ => ?_, fun t' k' ht' => ?_⟩
  · rw [Function.update_apply] at ht'
    split at ht'
    · exact Option.some.inj ht' ▸ hfree
    · exact h.fresh t' k' ht'
  · rw [Function.update_apply] at h₁ h₂
    split at h₁ <;> split at h₂
    · next ht₁ ht₂ => exact hne (ht₂.trans ht₁.symm)
    · next _ ht₂ => exact hothers t₂ ht₂ (Option.some.inj h₁ ▸ h₂)
    · next ht₁ _ => exact hothers t₁ ht₁ (Option.some.inj h₂ ▸ h₁)
    · exact h.apart t₁ t₂ k' hne h₁ h₂
  · rw [Function.update_apply] at ht' ⊢
    split at ht'
    · next heq =>
        rw [if_pos heq]
        exact List.not_mem_nil
    · next hne =>
        rw [if_neg hne]
        exact h.rivals t' k' ht'

/-- It adds its entry. -/
theorem Reserved.commit (h : Reserved entries key pending rivals) (ht : pending t = some k) {a : ι}
    (ha : key a = k) :
    Reserved (insert a entries) key (Function.update pending t none)
      (fun t' => if t' = t then rivals t' else k :: rivals t') := by
  have hpending : ∀ t' k', Function.update pending t none t' = some k' →
      t' ≠ t ∧ pending t' = some k' := by
    intro t' k' ht'
    rw [Function.update_apply] at ht'
    split at ht'
    · cases ht'
    · next hne => exact ⟨hne, ht'⟩
  refine ⟨?_, fun t' k' ht' b hb => ?_, fun t₁ t₂ k' hne h₁ h₂ => ?_, fun t' k' ht' => ?_⟩
  · intro b hb c hc heq
    rcases hb with rfl | hb <;> rcases hc with rfl | hc
    · rfl
    · exact absurd (heq.symm.trans ha) (h.fresh t k ht c hc)
    · exact absurd (heq.trans ha) (h.fresh t k ht b hb)
    · exact h.distinct hb hc heq
  · obtain ⟨hne, ht'⟩ := hpending t' k' ht'
    rcases hb with rfl | hb
    · rw [ha]
      rintro rfl
      exact h.apart t t' k hne ht ht'
    · exact h.fresh t' k' ht' b hb
  · exact h.apart t₁ t₂ k' hne (hpending t₁ k' h₁).2 (hpending t₂ k' h₂).2
  · obtain ⟨hne, ht'⟩ := hpending t' k' ht'
    rw [if_neg hne, List.mem_cons, not_or]
    refine ⟨?_, h.rivals t' k' ht'⟩
    rintro rfl
    exact h.apart t t' k' hne ht ht'

end SmartPlat.Lib
