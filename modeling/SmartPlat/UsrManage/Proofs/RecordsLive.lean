import SmartPlat.UsrManage.Proofs.ThreadSteps
import SmartPlat.UsrManage.Proofs.Accounts

set_option autoImplicit false

/-! # Records in use

`DelUsr` frees the record it has removed without knowing who has looked it up. -/

namespace SmartPlat.UsrManage

open SmartPlat.Lib

/-- No operation is about to use a record that is freed. -/
def RecordsLive (s : UsrServer) : Prop := ∀ t p, (s.threads t).held = some p → p ∈ s.allocated

/-- A record is freed when no other operation that has looked it up is going to use it. -/
def FreesUnheld (s : UsrServer) : UsrEvent → Prop
  | .free t => ∀ t', t' ≠ t → (s.threads t').held ≠ none → (s.threads t').held ≠ (s.threads t).held
  | _ => True

/-! ## Where a record is -/

/-- The records in the list, those that are looked up and those that are not in the list yet are
    allocated, and nobody else knows of the last. -/
structure Tidy (s : UsrServer) : Prop where
  live : RecordsLive s
  nodup : s.listHead.Nodup
  listed : ∀ p ∈ s.listHead, p ∈ s.allocated
  own : ∀ t p, (s.threads t).own = some p →
    p ∈ s.allocated ∧ p ∉ s.listHead ∧ ∀ t', (s.threads t').held ≠ some p
  owner : ∀ t t' p, (s.threads t).own = some p → (s.threads t').own = some p → t = t'
  removed : ∀ t p, s.threads t = .free p → p ∉ s.listHead

section

variable {s s' : UsrServer} {g g' : UsrLog} {t : ℕ} {p : RecPtr} {pc : UsrPc} {e : UsrEvent}

theorem UsrPc.held_of_own (h : pc.own = some p) : pc.held = none := by
  cases pc <;> first | rfl | cases h

/-- Thread `t` moves to `pc`. -/
theorem Tidy.update (hT : Tidy s) (hthreads : s'.threads = Function.update s.threads t pc)
    (hnodup : s'.listHead.Nodup) (hlisted : ∀ p ∈ s'.listHead, p ∈ s'.allocated)
    (hheld : ∀ t' p, t' ≠ t → (s.threads t').held = some p → p ∈ s'.allocated)
    (hpc : ∀ p, pc.held = some p → p ∈ s'.allocated ∧ ∀ t', t' ≠ t → (s.threads t').own ≠ some p)
    (hothers : ∀ t' p, t' ≠ t → (s.threads t').own = some p → p ∈ s'.allocated ∧ p ∉ s'.listHead)
    (hown : ∀ p, pc.own = some p → p ∈ s'.allocated ∧ p ∉ s'.listHead ∧
      ∀ t', t' ≠ t → (s.threads t').held ≠ some p ∧ (s.threads t').own ≠ some p)
    (hremoved : ∀ t' p, t' ≠ t → s.threads t' = .free p → p ∉ s'.listHead)
    (hfree : ∀ p, pc = .free p → p ∉ s'.listHead) : Tidy s' := by
  have hat : ∀ t', s'.threads t' = if t' = t then pc else s.threads t' := fun t' => by
    rw [hthreads, Function.update_apply]
  refine ⟨fun t' p ht' => ?_, hnodup, hlisted, fun t' p ht' => ?_, fun t₁ t₂ p h₁ h₂ => ?_,
    fun t' p ht' => ?_⟩
  · rw [hat] at ht'
    split at ht'
    · exact (hpc p ht').1
    · next hne => exact hheld t' p hne ht'
  · rw [hat] at ht'
    split at ht'
    · obtain ⟨hin, hout, hfar⟩ := hown p ht'
      refine ⟨hin, hout, fun t'' ht'' => ?_⟩
      rw [hat] at ht''
      split at ht''
      · rw [UsrPc.held_of_own ht'] at ht''
        cases ht''
      · next hne => exact (hfar t'' hne).1 ht''
    · next hne =>
        obtain ⟨hin, hout⟩ := hothers t' p hne ht'
        refine ⟨hin, hout, fun t'' ht'' => ?_⟩
        rw [hat] at ht''
        split at ht''
        · exact (hpc p ht'').2 t' hne ht'
        · exact (hT.own t' p ht').2.2 t'' ht''
  · rw [hat] at h₁ h₂
    split at h₁ <;> split at h₂
    · next ht₁ ht₂ => exact ht₁.trans ht₂.symm
    · next _ hne => exact absurd h₂ ((hown p h₁).2.2 t₂ hne).2
    · next hne _ => exact absurd h₁ ((hown p h₂).2.2 t₁ hne).2
    · exact hT.owner t₁ t₂ p h₁ h₂
  · rw [hat] at ht'
    split at ht'
    · exact hfree p ht'
    · next hne => exact hremoved t' p hne ht'

/-- The list and what is allocated stay as they are. -/
theorem Tidy.move (hT : Tidy s) (hthreads : s'.threads = Function.update s.threads t pc)
    (hlist : s'.listHead = s.listHead) (halloc : s'.allocated = s.allocated)
    (hheld : ∀ p, pc.held = some p → (s.threads t).held = some p ∨ p ∈ s.listHead)
    (hown : ∀ p, pc.own = some p → (s.threads t).own = some p) (hfree : ∀ p, pc ≠ .free p) :
    Tidy s' := by
  refine hT.update hthreads (hlist ▸ hT.nodup) (fun p hp => ?_) (fun t' p _ ht' => ?_)
    (fun p hp => ?_) (fun t' p _ ht' => ?_) (fun p hp => ?_) (fun t' p _ ht' => ?_)
    fun p hp => absurd hp (hfree p)
  · rw [halloc]
    exact hT.listed p (hlist ▸ hp)
  · rw [halloc]
    exact hT.live t' p ht'
  · rw [halloc]
    rcases hheld p hp with ht | hmem
    · exact ⟨hT.live t p ht, fun t' _ ht' => (hT.own t' p ht').2.2 t ht⟩
    · exact ⟨hT.listed p hmem, fun t' _ ht' => (hT.own t' p ht').2.1 hmem⟩
  · rw [halloc, hlist]
    exact ⟨(hT.own t' p ht').1, (hT.own t' p ht').2.1⟩
  · rw [halloc, hlist]
    obtain ⟨hin, hout, hfar⟩ := hT.own t p (hown p hp)
    exact ⟨hin, hout, fun t' hne => ⟨hfar t', fun ht' => hne (hT.owner t' t p ht' (hown p hp))⟩⟩
  · rw [hlist]
    exact hT.removed t' p ht'

theorem Moves.held {pc' : UsrPc} (h : Moves pc pc') : pc'.held = none := by
  cases h <;> rfl

theorem Moves.own {pc' : UsrPc} (h : Moves pc pc') : pc'.own = pc.own := by
  cases h <;> rfl

theorem Moves.ne_free {pc' : UsrPc} (h : Moves pc pc') (p : RecPtr) : pc' ≠ .free p := by
  intro heq
  cases h <;> cases heq

theorem Tidy.step (hT : Tidy s) (hfree : FreesUnheld s e) (hs : UsrStepCase s g t e s' g') :
    Tidy s' := by
  cases hs with
  | ends hpc => exact hT
  | finds hpc hmem =>
      refine hT.move rfl rfl rfl (fun p hp => ?_) (fun _ hp => by cases hp) (fun _ h => by cases h)
      obtain rfl := Option.some.inj hp
      exact Or.inr hmem
  | checks hpc hadm hnone =>
      exact hT.move rfl rfl rfl (fun _ hp => by cases hp) (fun _ hp => by cases hp)
        (fun _ h => by cases h)
  | @mallocs _ p info hpc hfresh =>
      refine hT.update rfl hT.nodup (fun q hq => Finset.mem_insert_of_mem (hT.listed q hq))
        (fun t' q _ ht' => Finset.mem_insert_of_mem (hT.live t' q ht')) (fun _ hp => by cases hp)
        (fun t' q _ ht' => ⟨Finset.mem_insert_of_mem (hT.own t' q ht').1, (hT.own t' q ht').2.1⟩)
        (fun q hq => ?_) (fun t' q _ ht' => hT.removed t' q ht') (fun _ h => by cases h)
      obtain rfl : p = q := Option.some.inj hq
      -- nobody refers to an address that `malloc` has just given out
      exact ⟨Finset.mem_insert_self _ _, fun hmem => hfresh (hT.listed p hmem), fun t' _ =>
        ⟨fun ht' => hfresh (hT.live t' p ht'), fun ht' => hfresh (hT.own t' p ht').1⟩⟩
  | moves hmoves _ =>
      refine hT.move rfl rfl rfl (fun p hp => ?_) (fun p hp => ?_) hmoves.ne_free
      · rw [hmoves.held] at hp
        cases hp
      · rw [← hmoves.own, hp]
  | @numbers p usrid hpc hnone =>
      refine hT.move rfl rfl rfl (fun _ hp => by cases hp) (fun q hq => ?_) (fun _ h => by cases h)
      rw [hpc]
      exact hq
  | @inserts _ p hpc =>
      have ht : (s.threads t).own = some p := by rw [hpc, UsrPc.own]
      obtain ⟨hin, hout, hfar⟩ := hT.own t p ht
      refine hT.update rfl ?_ (fun q hq => ?_) (fun t' q _ ht' => hT.live t' q ht')
        (fun _ hp => by cases hp) (fun t' q hne ht' => ?_) (fun _ hp => by cases hp)
        (fun t' q _ ht' => ?_) (fun _ h => by cases h)
      · rw [← List.concat_eq_append]
        exact hT.nodup.concat hout
      · rcases List.mem_append.1 hq with hold | hnew
        · exact hT.listed q hold
        · exact List.mem_singleton.1 hnew ▸ hin
      · obtain ⟨hin', hout', -⟩ := hT.own t' q ht'
        refine ⟨hin', fun hq => (List.mem_append.1 hq).elim hout' fun hnew => ?_⟩
        obtain rfl := List.mem_singleton.1 hnew
        exact hne (hT.owner t' t q ht' ht)
      · refine fun hq => (List.mem_append.1 hq).elim (hT.removed t' q ht') fun hnew => ?_
        obtain rfl := List.mem_singleton.1 hnew
        exact hfar t' (by rw [ht', UsrPc.held])
  | @writes _ p info pc g' hpc hnext _ =>
      refine hT.move rfl rfl rfl (fun q hq => Or.inl ?_) (fun q hq => ?_) fun q hq => ?_
      · rcases hnext with rfl | rfl | rfl | ⟨u, v, rfl⟩
        · cases hq
        all_goals exact hpc.trans hq
      · rcases hnext with rfl | rfl | rfl | ⟨u, v, rfl⟩ <;> cases hq
      · rcases hnext with rfl | rfl | rfl | ⟨u, v, rfl⟩ <;> cases hq
  | @removes _ p hpc =>
      have ht : (s.threads t).held = some p := by rw [hpc, UsrPc.held]
      refine hT.update rfl (hT.nodup.erase p) (fun q hq => hT.listed q (List.mem_of_mem_erase hq))
        (fun t' q _ ht' => hT.live t' q ht') (fun q hq => ?_)
        (fun t' q _ ht' => ⟨(hT.own t' q ht').1,
          fun hq => (hT.own t' q ht').2.1 (List.mem_of_mem_erase hq)⟩)
        (fun _ hp => by cases hp)
        (fun t' q _ ht' hq => hT.removed t' q ht' (List.mem_of_mem_erase hq)) fun q hq => ?_
      · obtain rfl : p = q := Option.some.inj hq
        exact ⟨hT.live t p ht, fun t' _ ht' => (hT.own t' p ht').2.2 t ht⟩
      · obtain rfl : p = q := UsrPc.free.inj hq
        exact hT.nodup.not_mem_erase
  | @frees p hpc =>
      -- the record has left the list, so only a thread that holds it can still come across it
      have ht : (s.threads t).held = some p := by rw [hpc, UsrPc.held]
      have hout := hT.removed t p hpc
      refine hT.update rfl hT.nodup (fun q hq => Finset.mem_erase.2
          ⟨fun heq => hout (heq ▸ hq), hT.listed q hq⟩)
        (fun t' q hne ht' => ?_) (fun _ hp => by cases hp) (fun t' q _ ht' => ?_)
        (fun _ hp => by cases hp) (fun t' q _ ht' => hT.removed t' q ht') (fun _ h => by cases h)
      · refine Finset.mem_erase.2 ⟨?_, hT.live t' q ht'⟩
        rintro rfl
        exact hfree t' hne (by rw [ht']; exact Option.some_ne_none q) (ht'.trans ht.symm)
      · obtain ⟨hin', hout', hfar⟩ := hT.own t' q ht'
        refine ⟨Finset.mem_erase.2 ⟨?_, hin'⟩, hout'⟩
        rintro rfl
        exact hfar t ht

/-- A record that is freed while another operation is going to use it. -/
theorem RecordsLive.freesUnheld (hl : RecordsLive s') (hs : UsrThreadStep s e s') :
    FreesUnheld s e := by
  cases e with
  | free t =>
      intro t' hne _ ht'
      simp only [UsrThreadStep, usrStep] at hs
      split at hs
      · next p hpc =>
          obtain rfl := Option.some.inj hs
          rw [hpc] at ht'
          have hin := hl t' p (by rw [setThread_of_ne _ hne]; exact ht')
          exact Finset.notMem_erase p _ hin
      · cases hs
  | _ => trivial

end

/-! ## All runs -/

theorem Tidy.init (l : LoadedList) : Tidy (.init l) where
  live _ _ h := nomatch h
  nodup := l.nodup
  listed _ hp := List.mem_toFinset.2 hp
  own _ _ h := nomatch h
  owner _ _ _ h := nomatch h
  removed _ _ h := nomatch h

theorem usrThreadStep_deterministic (s : UsrServer) (e : UsrEvent) (s' s'' : UsrServer)
    (h : UsrThreadStep s e s') (h' : UsrThreadStep s e s'') : s' = s'' :=
  Option.some.inj (h.symm.trans h')

/-- **No freed record is used** in a run exactly when every record is freed unheld. -/
theorem recordsLive_iff {l : LoadedList} {tr : List UsrEvent} {s : UsrServer}
    (h : Run UsrThreadStep (.init l) tr s) :
    (∀ pre s₁, pre <+: tr → Run UsrThreadStep (.init l) pre s₁ → RecordsLive s₁) ↔
      Run (stepWhen FreesUnheld UsrThreadStep) (.init l) tr s :=
  Run.always_iff Tidy usrThreadStep_deterministic (.init l) (fun _ hT => hT.live)
    (fun _ _ _ hT hfree hs => hT.step (g := .empty) hfree (usrStepCase ⟨hs, rfl⟩))
    (fun _ _ _ _ hfree hs hlive => hfree (hlive.freesUnheld hs)) h

def aliceBob : LoadedList where
  mem p := if p = 0 then alice else bob
  ptrs := [0, 1]
  nodup := by decide

/-- Alice is deleted while another thread checks her password. -/
theorem record_freed_in_use :
    ∃ s, Run UsrThreadStep (.init aliceBob) [.call 0 (.authentication alice.name alice.passWord.str),
        .call 1 (.delUsr bob alice), .access 1, .delHandle 1, .free 1] s ∧ ¬ RecordsLive s := by
  obtain ⟨s, hrun, hheld, hfreed⟩ : ∃ s, Run UsrThreadStep (.init aliceBob)
      [.call 0 (.authentication alice.name alice.passWord.str), .call 1 (.delUsr bob alice), .access 1,
        .delHandle 1, .free 1] s ∧ (s.threads 0).held = some 0 ∧ 0 ∉ s.allocated :=
    Run.exists_of_eval (f := usrStep) (fun _ _ _ h => h) (by decide)
  exact ⟨s, hrun, fun h => hfreed (h 0 0 hheld)⟩

end SmartPlat.UsrManage
