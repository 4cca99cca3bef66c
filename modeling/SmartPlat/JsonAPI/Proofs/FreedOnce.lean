import SmartPlat.JsonAPI.Proofs.RequestSteps

set_option autoImplicit false

/-! # A session is freed once

Whatever the order of the steps, of two logouts of one session only the one that takes its handle out
of the list frees it. `Owned` says where a handle is: in the list, or with one login or logout. -/

namespace SmartPlat.JsonAPI

open SmartPlat.Lib SmartPlat.UsrManage SmartPlat.Adp SmartPlat.Adp.AdpState

/-- The session is freed, or a logout is about to free it. -/
def Ended (x : ServerState × SessionLog) (n : SessionKey) : Prop :=
  x.2.freed n = 1 ∨ n = x.2.current n.1 ∧ ∃ t, (x.1.requests t).freeing = some n.1

/-- However many logouts of a session there are, it is freed once. -/
structure FreedOnce (x : ServerState × SessionLog) : Prop where
  once : ∀ n, x.2.freed n ≤ 1
  loggedOut : ∀ n ∈ x.2.loggedOut, Ended x n

section

variable {x y : ServerState × SessionLog} {t : ℕ}

/-! ## Handles that are not in the list -/

/-- Listed handles and those of logins and of logouts that are about to free them are allocated, and
    each is in one place. -/
structure Owned (x : ServerState × SessionLog) : Prop where
  nodup : x.1.adp.jsonListHead.Nodup
  listed : ∀ h ∈ x.1.adp.jsonListHead, h ∈ x.1.allocated
  owned : ∀ t h, (x.1.requests t).owned = some h →
    h ∈ x.1.allocated ∧ h ∉ x.1.adp.jsonListHead
  owner : ∀ t t' h, (x.1.requests t).owned = some h → (x.1.requests t').owned = some h → t = t'

/-- One thread moves to `pc`. -/
theorem Owned.update {pc : RequestPc} (hO : Owned x)
    (hreq : y.1.requests = Function.update x.1.requests t pc)
    (hnodup : y.1.adp.jsonListHead.Nodup) (hlisted : ∀ h ∈ y.1.adp.jsonListHead, h ∈ y.1.allocated)
    (hkeep : ∀ t' h, t' ≠ t → (x.1.requests t').owned = some h →
      h ∈ y.1.allocated ∧ h ∉ y.1.adp.jsonListHead)
    (hnew : ∀ h, pc.owned = some h → (h ∈ y.1.allocated ∧ h ∉ y.1.adp.jsonListHead) ∧
      ∀ t', t' ≠ t → (x.1.requests t').owned ≠ some h) : Owned y := by
  refine ⟨hnodup, hlisted, fun t' h ht' => ?_, fun t₁ t₂ h h₁ h₂ => ?_⟩
  · rw [hreq, Function.update_apply] at ht'
    split at ht'
    · exact (hnew h ht').1
    · next hne => exact hkeep t' h hne ht'
  · rw [hreq, Function.update_apply] at h₁ h₂
    split at h₁ <;> split at h₂
    · next ht₁ ht₂ => exact ht₁.trans ht₂.symm
    · next _ hne => exact absurd h₂ ((hnew h h₁).2 t₂ hne)
    · next hne _ => exact absurd h₁ ((hnew h h₂).2 t₁ hne)
    · exact hO.owner t₁ t₂ h h₁ h₂

/-- The lists stay as they are. -/
theorem Owned.move {pc : RequestPc} (hO : Owned x)
    (hreq : y.1.requests = Function.update x.1.requests t pc)
    (hlist : y.1.adp.jsonListHead = x.1.adp.jsonListHead)
    (halloc : y.1.allocated = x.1.allocated)
    (howned : pc.owned = none ∨ pc.owned = (x.1.requests t).owned) : Owned y := by
  refine hO.update hreq (hlist ▸ hO.nodup) (hlist ▸ halloc ▸ hO.listed) (fun t' h _ ht' => ?_)
    fun h hpc => ?_
  · rw [hlist, halloc]
    exact hO.owned t' h ht'
  · rw [hlist, halloc]
    have ht : (x.1.requests t).owned = some h := by
      rcases howned with hnone | hsame
      · rw [hnone] at hpc
        cases hpc
      · rw [← hsame, hpc]
    exact ⟨hO.owned t h ht, fun t' hne ht' => hne (hO.owner t' t h ht' ht)⟩

theorem Owned.step {e : RequestEvent} (hO : Owned x) (hs : StepCase x e y) : Owned y := by
  cases hs with
  | stay hreq hlist halloc hlog =>
      constructor
      · rw [hlist]
        exact hO.nodup
      · rw [hlist, halloc]
        exact hO.listed
      · rw [hreq, hlist, halloc]
        exact hO.owned
      · rw [hreq]
        exact hO.owner
  | @opens _ _ t h _ hpc hfresh hreq hlist halloc hlog =>
      have hnew : h ∉ x.1.adp.jsonListHead := fun hmem => hfresh (hO.listed h hmem)
      refine hO.update hreq (hlist ▸ hO.nodup) (fun h' hh' => ?_) (fun t' h' _ ht' => ?_)
        fun h' hh' => ?_
      · rw [halloc]
        exact Finset.mem_insert_of_mem (hO.listed h' (hlist ▸ hh'))
      · rw [hlist, halloc]
        exact (hO.owned t' h' ht').imp_left Finset.mem_insert_of_mem
      · obtain rfl : h = h' := Option.some.inj hh'
        rw [hlist, halloc]
        -- `malloc` gives a handle that neither the list nor another request has
        exact ⟨⟨Finset.mem_insert_self _ _, hnew⟩, fun t' _ ht' => hfresh (hO.owned t' h ht').1⟩
  | goes _ hreq _ howned _ _ _ hlist halloc _ => exact hO.move hreq hlist halloc howned
  | command _ _ hreq hlist halloc _ => exact hO.move hreq hlist halloc (Or.inl rfl)
  | loginOut _ _ hreq hlist halloc _ => exact hO.move hreq hlist halloc (Or.inl rfl)
  | @enters _ t h hpc hreq hlist halloc _ =>
      have ht : (x.1.requests t).owned = some h := by rw [hpc, RequestPc.owned]
      obtain ⟨hin, hout⟩ := hO.owned t h ht
      refine hO.update hreq ?_ (fun h' hh' => ?_) (fun t' h' hne ht' => ?_) (fun _ hh => by cases hh)
      · rw [hlist, ← List.concat_eq_append]
        exact hO.nodup.concat hout
      · rw [hlist, List.mem_append, List.mem_singleton] at hh'
        rw [halloc]
        rcases hh' with hold | rfl
        · exact hO.listed h' hold
        · exact hin
      · rw [hlist, halloc, List.mem_append, List.mem_singleton]
        obtain ⟨hin', hout'⟩ := hO.owned t' h' ht'
        refine ⟨hin', fun hmem => hmem.elim hout' ?_⟩
        rintro rfl
        exact hne (hO.owner t' t h' ht' ht)
  | @removes _ t h iret hpc hmem hreq hlist halloc _ =>
      refine hO.update hreq ?_ (fun h' hh' => ?_) (fun t' h' _ ht' => ?_) fun h' hh' => ?_
      · rw [hlist]
        exact hO.nodup.erase h
      · rw [hlist] at hh'
        rw [halloc]
        exact hO.listed h' (List.mem_of_mem_erase hh')
      · rw [hlist, halloc]
        obtain ⟨hin', hout'⟩ := hO.owned t' h' ht'
        exact ⟨hin', fun hmem' => hout' (List.mem_of_mem_erase hmem')⟩
      · obtain rfl : h = h' := Option.some.inj hh'
        rw [hlist, halloc]
        exact ⟨⟨hO.listed h hmem, hO.nodup.not_mem_erase⟩,
          fun t' _ ht' => (hO.owned t' h ht').2 hmem⟩
  | fails _ _ hreq hlist halloc _ => exact hO.move hreq hlist halloc (Or.inl rfl)
  | @frees _ t h iret hpc hreq hlist halloc _ =>
      have ht : (x.1.requests t).owned = some h := by rw [hpc, RequestPc.owned]
      obtain ⟨-, hout⟩ := hO.owned t h ht
      refine hO.update hreq (hlist ▸ hO.nodup) (fun h' hh' => ?_) (fun t' h' hne ht' => ?_)
        (fun _ hh => by cases hh)
      · rw [hlist] at hh'
        rw [halloc]
        exact Finset.mem_erase.2 ⟨fun heq => hout (heq ▸ hh'), hO.listed h' hh'⟩
      · rw [hlist, halloc]
        obtain ⟨hin', hout'⟩ := hO.owned t' h' ht'
        exact ⟨Finset.mem_erase.2 ⟨fun heq => hne (hO.owner t' t h (heq ▸ ht') ht), hin'⟩, hout'⟩
/-! ## Sessions are freed once -/

/-- `Ended` lasts, and so does the rest: a session that can still be found or freed is not freed. -/
structure Sessions (x : ServerState × SessionLog) : Prop where
  once : ∀ n, x.2.freed n ≤ 1
  later : ∀ h k, x.2.mallocs h < k → x.2.freed (h, k) = 0
  held : ∀ h, (h ∈ x.1.adp.jsonListHead ∨ ∃ t, (x.1.requests t).owned = some h) →
    x.2.freed (x.2.current h) = 0
  found : ∀ t h, (x.1.requests t).loggingOut = some h →
    x.2.found t = x.2.current h ∧ h ∈ x.1.adp.jsonListHead ∨ Ended x (x.2.found t)
  loggedOut : ∀ n ∈ x.2.loggedOut, Ended x n

theorem Ended.update {n : SessionKey} {pc : RequestPc} (h : Ended x n)
    (hpc : (x.1.requests t).freeing = none)
    (hreq : y.1.requests = Function.update x.1.requests t pc) (hfreed : y.2.freed = x.2.freed)
    (hcurrent : y.2.current n.1 = x.2.current n.1) : Ended y n := by
  refine h.imp (fun h => (congrFun hfreed n).trans h) fun ⟨hn, t', ht'⟩ =>
    ⟨hn.trans hcurrent.symm, t', ?_⟩
  have hne : t' ≠ t := by
    rintro rfl
    rw [hpc] at ht'
    cases ht'
  rw [hreq, Function.update_of_ne hne, ht']

theorem Ended.step {e : RequestEvent} {n : SessionKey} (h : Ended x n) (hO : Owned x)
    (hS : Sessions x) (hs : StepCase x e y) : Ended y n := by
  cases hs with
  | stay hreq hlist halloc hlog => rwa [Ended, hreq, hlog]
  | @opens _ _ t p _ hpc hfresh hreq hlist halloc hlog =>
      refine h.imp (fun h => ?_) fun ⟨hn, t', ht'⟩ => ?_
      · rw [hlog]
        exact h
      · have hne : n.1 ≠ p := by
          rintro rfl
          exact hfresh (hO.owned t' _ (RequestPc.owned_of_freeing ht')).1
        have hne' : t' ≠ t := by
          rintro rfl
          rw [hpc] at ht'
          cases ht'
        refine ⟨hn.trans ?_, t', by rw [hreq, Function.update_of_ne hne', ht']⟩
        rw [hlog, SessionLog.opened_of_ne _ hne]
  | goes _ hreq _ _ hfree _ _ _ _ hlog => exact h.update hfree.2 hreq (hlog ▸ rfl) (hlog ▸ rfl)
  | command hpc _ hreq _ _ hlog => exact h.update (hpc ▸ rfl) hreq (hlog ▸ rfl) (hlog ▸ rfl)
  | loginOut hpc _ hreq _ _ hlog => exact h.update (hpc ▸ rfl) hreq (hlog ▸ rfl) (hlog ▸ rfl)
  | enters hpc hreq _ _ hlog => exact h.update (hpc ▸ rfl) hreq (hlog ▸ rfl) (hlog ▸ rfl)
  | removes hpc _ hreq _ _ hlog => exact h.update (hpc ▸ rfl) hreq (hlog ▸ rfl) (hlog ▸ rfl)
  | fails hpc _ hreq _ _ hlog => exact h.update (hpc ▸ rfl) hreq (hlog ▸ rfl) (hlog ▸ rfl)
  | @frees _ t p iret hpc hreq hlist halloc hlog =>
      have hzero : x.2.freed (x.2.current p) = 0 :=
        hS.held p (Or.inr ⟨t, by rw [hpc, RequestPc.owned]⟩)
      by_cases hn : n = x.2.current p
      · subst hn
        left
        rw [hlog]
        exact (SessionLog.released_self _ p).trans (by rw [hzero])
      · refine h.imp (fun h => ?_) fun ⟨hcur, t', ht'⟩ => ?_
        · rw [hlog]
          exact (SessionLog.released_of_ne _ hn).trans h
        · have hne : t' ≠ t := by
            rintro rfl
            rw [hpc] at ht'
            obtain rfl : p = n.1 := Option.some.inj ht'
            exact hn hcur
          exact ⟨hcur.trans (hlog ▸ rfl), t', by rw [hreq, Function.update_of_ne hne, ht']⟩

theorem Sessions.held_update {pc : RequestPc} (hS : Sessions x)
    (hreq : y.1.requests = Function.update x.1.requests t pc)
    (hlist : y.1.adp.jsonListHead = x.1.adp.jsonListHead)
    (howned : pc.owned = none ∨ pc.owned = (x.1.requests t).owned) (h : HandlePtr)
    (hh : h ∈ y.1.adp.jsonListHead ∨ ∃ t, (y.1.requests t).owned = some h) :
    x.2.freed (x.2.current h) = 0 := by
  refine hS.held h (hh.imp (fun hmem => hlist ▸ hmem) fun ⟨t', ht'⟩ => ⟨t', ?_⟩)
  rw [hreq, Function.update_apply] at ht'
  split at ht'
  · next heq =>
      rcases howned with hnone | hsame
      · rw [hnone] at ht'
        cases ht'
      · rw [heq, ← hsame, ht']
  · exact ht'

theorem Sessions.held_step {e : RequestEvent} (hS : Sessions x) (hO : Owned x)
    (hs : StepCase x e y) (h : HandlePtr)
    (hh : h ∈ y.1.adp.jsonListHead ∨ ∃ t, (y.1.requests t).owned = some h) :
    y.2.freed (y.2.current h) = 0 := by
  cases hs with
  | stay hreq hlist halloc hlog =>
      rw [hreq, hlist] at hh
      exact hlog ▸ hS.held h hh
  | @opens _ _ t p _ hpc hfresh hreq hlist halloc hlog =>
      rw [hlog]
      by_cases hp : h = p
      · subst hp
        rw [SessionLog.opened_self]
        exact hS.later h _ (Nat.lt_succ_self _)
      · rw [SessionLog.opened_of_ne _ hp]
        refine hS.held h (hh.imp (fun hmem => hlist ▸ hmem) fun ⟨t', ht'⟩ => ⟨t', ?_⟩)
        rw [hreq, Function.update_apply] at ht'
        split at ht'
        · exact absurd (Option.some.inj ht').symm hp
        · exact ht'
  | goes _ hreq _ howned _ _ _ hlist _ hlog => exact hlog ▸ hS.held_update hreq hlist howned h hh
  | command _ _ hreq hlist _ hlog => exact hlog ▸ hS.held_update hreq hlist (Or.inl rfl) h hh
  | loginOut _ _ hreq hlist _ hlog => exact hlog ▸ hS.held_update hreq hlist (Or.inl rfl) h hh
  | fails _ _ hreq hlist _ hlog => exact hlog ▸ hS.held_update hreq hlist (Or.inl rfl) h hh
  | @enters _ t p hpc hreq hlist halloc hlog =>
      rw [hlog]
      refine hS.held h ?_
      rcases hh with hmem | ⟨t', ht'⟩
      · rw [hlist, List.mem_append, List.mem_singleton] at hmem
        refine hmem.imp_right fun heq => ⟨t, ?_⟩
        rw [hpc, heq, RequestPc.owned]
      · rw [hreq, Function.update_apply] at ht'
        split at ht'
        · cases ht'
        · exact Or.inr ⟨t', ht'⟩
  | @removes _ t p iret hpc hmem hreq hlist halloc hlog =>
      rw [hlog]
      refine hS.held h ?_
      rcases hh with hmem' | ⟨t', ht'⟩
      · rw [hlist] at hmem'
        exact Or.inl (List.mem_of_mem_erase hmem')
      · rw [hreq, Function.update_apply] at ht'
        split at ht'
        · obtain rfl : p = h := Option.some.inj ht'
          exact Or.inl hmem
        · exact Or.inr ⟨t', ht'⟩
  | @frees _ t p iret hpc hreq hlist halloc hlog =>
      have ht : (x.1.requests t).owned = some p := by rw [hpc, RequestPc.owned]
      -- the handle that is freed is in no list, and no other request has it
      have hp : h ≠ p := by
        rintro rfl
        rcases hh with hmem | ⟨t', ht'⟩
        · exact (hO.owned t h ht).2 (hlist ▸ hmem)
        · rw [hreq, Function.update_apply] at ht'
          split at ht'
          · cases ht'
          · next hne => exact hne (hO.owner t' t h ht' ht)
      rw [hlog]
      refine (SessionLog.released_of_ne _ ?_).trans
        (hS.held_update hreq hlist (Or.inl rfl) h hh)
      exact fun heq => hp (Prod.mk.inj heq).1

/-- No search by a logout, and no handle leaves the list. -/
theorem Sessions.found_update {e : RequestEvent} {pc : RequestPc} (hS : Sessions x) (hO : Owned x)
    (hs : StepCase x e y) (hreq : y.1.requests = Function.update x.1.requests t pc)
    (hout : pc.loggingOut = none ∨ pc.loggingOut = (x.1.requests t).loggingOut)
    (hlist : ∀ h ∈ x.1.adp.jsonListHead, h ∈ y.1.adp.jsonListHead ∧
      y.2.current h = x.2.current h) (hfound : y.2.found = x.2.found) (t' : ℕ) (h : HandlePtr)
    (ht' : (y.1.requests t').loggingOut = some h) :
    y.2.found t' = y.2.current h ∧ h ∈ y.1.adp.jsonListHead ∨ Ended y (y.2.found t') := by
  have hx : (x.1.requests t').loggingOut = some h := by
    rw [hreq, Function.update_apply] at ht'
    split at ht'
    · next heq =>
        rcases hout with hnone | hsame
        · rw [hnone] at ht'
          cases ht'
        · rw [heq, ← hsame, ht']
    · exact ht'
  rw [hfound]
  refine (hS.found t' h hx).imp (fun ⟨hcur, hmem⟩ => ?_) fun hended => hended.step hO hS hs
  exact ⟨hcur.trans (hlist h hmem).2.symm, (hlist h hmem).1⟩

theorem Sessions.found_step {e : RequestEvent} (hS : Sessions x) (hO : Owned x)
    (hs : StepCase x e y) (t' : ℕ) (h : HandlePtr)
    (ht' : (y.1.requests t').loggingOut = some h) :
    y.2.found t' = y.2.current h ∧ h ∈ y.1.adp.jsonListHead ∨ Ended y (y.2.found t') := by
  have hcase := hs
  cases hs with
  | stay hreq hlist halloc hlog =>
      rw [hreq] at ht'
      rw [hlist, hlog]
      exact (hS.found t' h ht').imp_right fun hended => hended.step hO hS hcase
  | @opens _ _ t p _ hpc hfresh hreq hlist halloc hlog =>
      refine hS.found_update hO hcase hreq (Or.inl rfl) (fun h' hmem => ?_) (hlog ▸ rfl) t' h ht'
      have hne : h' ≠ p := by
        rintro rfl
        exact hfresh (hO.listed h' hmem)
      rw [hlist, hlog, SessionLog.opened_of_ne _ hne]
      exact ⟨hmem, rfl⟩
  | goes _ hreq _ _ _ hout _ hlist _ hlog =>
      exact hS.found_update hO hcase hreq hout (fun _ hmem => ⟨hlist ▸ hmem, hlog ▸ rfl⟩)
        (hlog ▸ rfl) t' h ht'
  | command _ _ hreq hlist _ hlog =>
      exact hS.found_update hO hcase hreq (Or.inl rfl) (fun _ hmem => ⟨hlist ▸ hmem, hlog ▸ rfl⟩)
        (hlog ▸ rfl) t' h ht'
  | @loginOut _ t ssionID p hpc hfound hreq hlist halloc hlog =>
      rw [hreq, Function.update_apply] at ht'
      rw [hlog]
      split at ht'
      · next heq =>
          obtain rfl : p = h := Option.some.inj ht'
          left
          rw [heq, hlist]
          exact ⟨Function.update_self _ _ _, handleOf_mem hfound⟩
      · next hne =>
          have hsame : (x.2.search t p).found t' = x.2.found t' := Function.update_of_ne hne _ _
          rw [hlist, hsame]
          exact (hS.found t' h ht').imp_right fun hended => hended.step hO hS hcase
  | enters _ hreq hlist _ hlog =>
      exact hS.found_update hO hcase hreq (Or.inl rfl)
        (fun _ hmem => ⟨hlist ▸ List.mem_append_left _ hmem, hlog ▸ rfl⟩) (hlog ▸ rfl) t' h ht'
  | @removes _ t p iret hpc hmem hreq hlist halloc hlog =>
      have hx : (x.1.requests t').loggingOut = some h := by
        rw [hreq, Function.update_apply] at ht'
        split at ht'
        · next heq => rw [heq, hpc, ← ht', RequestPc.loggingOut, RequestPc.loggingOut]
        · exact ht'
      rcases hS.found t' h hx with ⟨hcur, hin⟩ | hended
      · by_cases hp : h = p
        · -- this session is the one that leaves the list
          refine Or.inr (Or.inr ?_)
          rw [hlog, hcur]
          refine ⟨rfl, t, ?_⟩
          rw [hreq, Function.update_self, RequestPc.freeing, ← hp, SessionLog.current]
        · rw [hlist, hlog, List.mem_erase_of_ne hp]
          exact Or.inl ⟨hcur, hin⟩
      · exact Or.inr (hlog ▸ hended.step hO hS hcase)
  | fails _ _ hreq hlist _ hlog =>
      exact hS.found_update hO hcase hreq (Or.inl rfl) (fun _ hmem => ⟨hlist ▸ hmem, hlog ▸ rfl⟩)
        (hlog ▸ rfl) t' h ht'
  | frees _ hreq hlist _ hlog =>
      exact hS.found_update hO hcase hreq (Or.inl rfl) (fun _ hmem => ⟨hlist ▸ hmem, hlog ▸ rfl⟩)
        (hlog ▸ rfl) t' h ht'

theorem Sessions.loggedOut_step {e : RequestEvent} (hS : Sessions x) (hO : Owned x)
    (hs : StepCase x e y) : ∀ n ∈ y.2.loggedOut, Ended y n := by
  have hkeep : ∀ n, Ended x n → Ended y n := fun n hn => hn.step hO hS hs
  cases hs with
  | @fails _ t h iret hpc hmem hreq hlist halloc hlog =>
      rw [hlog]
      refine List.forall_mem_cons.2 ⟨hkeep _ ?_, fun n hn => hkeep n (hS.loggedOut n hn)⟩
      exact (hS.found t h (by rw [hpc, RequestPc.loggingOut])).resolve_left
        fun hin => hmem hin.2
  | @frees _ t h iret hpc hreq hlist halloc hlog =>
      rw [hlog]
      refine List.forall_mem_cons.2 ⟨hkeep _ ?_, fun n hn => hkeep n (hS.loggedOut n hn)⟩
      have hout := (hO.owned t h (by rw [hpc, RequestPc.owned])).2
      exact (hS.found t h (by rw [hpc, RequestPc.loggingOut])).resolve_left
        fun hin => hout hin.2
  | stay _ _ _ hlog | opens _ _ _ _ _ _ hlog | goes _ _ _ _ _ _ _ _ _ hlog | command _ _ _ _ _ hlog
  | loginOut _ _ _ _ _ hlog | enters _ _ _ _ hlog | removes _ _ _ _ _ hlog =>
      rw [hlog]
      exact fun n hn => hkeep n (hS.loggedOut n hn)

theorem Sessions.step {e : RequestEvent} (hS : Sessions x) (hO : Owned x) (hs : StepCase x e y) :
    Sessions y := by
  refine ⟨?_, ?_, hS.held_step hO hs, hS.found_step hO hs, hS.loggedOut_step hO hs⟩
  · cases hs with
    | @frees _ t h iret hpc hreq hlist halloc hlog =>
        intro n
        rw [hlog]
        by_cases hn : n = x.2.current h
        · subst hn
          have hzero := hS.held h (Or.inr ⟨t, by rw [hpc, RequestPc.owned]⟩)
          exact ((SessionLog.released_self _ h).trans (by rw [hzero])).le
        · exact (SessionLog.released_of_ne _ hn).trans_le (hS.once n)
    | stay _ _ _ hlog | opens _ _ _ _ _ _ hlog | goes _ _ _ _ _ _ _ _ _ hlog | command _ _ _ _ _ hlog
    | loginOut _ _ _ _ _ hlog | enters _ _ _ _ hlog | removes _ _ _ _ _ hlog
    | fails _ _ _ _ _ hlog =>
        rw [hlog]
        exact hS.once
  · cases hs with
    | @opens _ _ t h _ hpc hfresh hreq hlist halloc hlog =>
        intro h' k hk
        rw [hlog] at hk ⊢
        refine hS.later h' k (lt_of_le_of_lt ?_ hk)
        by_cases hp : h' = h
        · subst hp
          simp [SessionLog.opened]
        · simp [SessionLog.opened, hp]
    | @frees _ t h iret hpc hreq hlist halloc hlog =>
        intro h' k hk
        rw [hlog] at hk ⊢
        refine (SessionLog.released_of_ne _ ?_).trans (hS.later h' k hk)
        intro heq
        obtain ⟨rfl, rfl⟩ := Prod.mk.inj heq
        exact lt_irrefl _ hk
    | stay _ _ _ hlog | goes _ _ _ _ _ _ _ _ _ hlog | command _ _ _ _ _ hlog
    | loginOut _ _ _ _ _ hlog | enters _ _ _ _ hlog | removes _ _ _ _ _ hlog
    | fails _ _ _ _ _ hlog =>
        rw [hlog]
        exact hS.later

end

/-! ## Runs -/

section Runs

variable {adp : AdpState} {allocated : Finset HandlePtr} {tr : List RequestEvent}
  {x : ServerState × SessionLog}

theorem owned_init : Owned (.init adp allocated, .empty) where
  nodup := List.nodup_nil
  listed _ hh := nomatch hh
  owned _ _ hh := nomatch hh
  owner _ _ _ hh := nomatch hh

theorem sessions_init : Sessions (.init adp allocated, .empty) where
  once _ := Nat.zero_le 1
  later _ _ _ := rfl
  held _ _ := rfl
  found _ _ hh := nomatch hh
  loggedOut _ hn := nomatch hn

theorem Sessions.freedOnce (hS : Sessions x) : FreedOnce x := ⟨hS.once, hS.loggedOut⟩

/-- Whatever the order of the steps, a session is freed once. -/
theorem freedOnce_run (h : Run LoggedStep (.init adp allocated, .empty) tr x) : FreedOnce x :=
  (h.stateInvariant (fun x => Owned x ∧ Sessions x) ⟨owned_init, sessions_init⟩
    fun _ _ _ hI hs => ⟨hI.1.step (stepCase hs), hI.2.step hI.1 (stepCase hs)⟩).2.freedOnce

end Runs

end SmartPlat.JsonAPI
