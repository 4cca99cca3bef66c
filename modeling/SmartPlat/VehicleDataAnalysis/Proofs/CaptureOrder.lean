import SmartPlat.VehicleDataAnalysis.CaptureQueue
import SmartPlat.Lib.Transition

set_option autoImplicit false

/-! # The queue of captures: order, and the life of a record

The list and the log of the thread together are the records accepted, in their order: a record leaves the
list only after the thread has worked on it, and the thread works on the head only. The mutex of a
record keeps the thread out until the call has released it, and says whose the record is. -/

namespace SmartPlat.VehicleDataAnalysis

open SmartPlat.Lib SmartPlat.HkSdkManage

variable {s s' : CaptureState} {e : CaptureEvent} {k a : ℕ}

/-! ## The property -/

/-- The records accepted, each with its contents as they are when they are completely written. -/
def complete (accepted : List (ℕ × DataAtt)) : List (ℕ × Option DataAtt) :=
  accepted.map fun x => (x.1, some x.2)

/-- What the thread has worked on is a beginning of what was accepted, completely written; no call is
    accepted twice; and every record that is in the list or that somebody still accesses is allocated. -/
structure Delivered (s : CaptureState) : Prop where
  inOrder : s.processed <+: complete s.accepted
  once : (s.accepted.map Prod.fst).Nodup
  all : s.listHead = [] → s.processed = complete s.accepted
  listed : ∀ a ∈ s.listHead, (s.mem a).isSome = true
  accessed : ∀ k a, (s.calls k).record = some a → (s.mem a).isSome = true
  taken : ∀ a, s.pc.record = some a → (s.mem a).isSome = true

/-! ## The invariant -/

/-- What a record holds for the thread. -/
def entry (mem : ℕ → Option DataAttList) (a : ℕ) : Option (ℕ × Option DataAtt) :=
  (mem a).map fun r => (r.call, r.dataAtt)

/-- The records in the list that the thread has not worked on. -/
def todo (s : CaptureState) : List ℕ :=
  match s.pc with
  | .del _ => s.listHead.tail
  | _ => s.listHead

def LockedBy (s : CaptureState) (a : ℕ) (h : Option Holder) : Prop :=
  ∃ r, s.mem a = some r ∧ r.selfMutex = h

def CallInv (s : CaptureState) (k : ℕ) : Prop :=
  match s.calls k with
  | .idle => k ∉ s.accepted.map Prod.fst
  | .locked a _ => k ∉ s.accepted.map Prod.fst ∧ a ∉ s.listHead ∧
      s.mem a = some ⟨none, some (.call k), k⟩
  | .written a d => k ∉ s.accepted.map Prod.fst ∧ a ∉ s.listHead ∧
      s.mem a = some ⟨some d, some (.call k), k⟩
  | .added a => a ∈ s.listHead ∧ ∃ d, s.mem a = some ⟨some d, some (.call k), k⟩
  | .returned => True

def ThreadInv (s : CaptureState) : Prop :=
  match s.pc with
  | .next => True
  | .lock a => s.listHead.head? = some a
  | .process a | .del a => s.listHead.head? = some a ∧ LockedBy s a (some .database)
  | .unlock a => a ∉ s.listHead ∧ LockedBy s a (some .database)
  | .destroy a | .free a => a ∉ s.listHead ∧ LockedBy s a none
  | .ended => s.innerExitFlag = false

structure CaptureInv (s : CaptureState) : Prop where
  log : (complete s.accepted).map some = s.processed.map some ++ (todo s).map (entry s.mem)
  distinct : s.listHead.Nodup
  once : (s.accepted.map Prod.fst).Nodup
  calls : ∀ k, CallInv s k
  /-- A record in the list is free, or the thread is at work on it, or its call is about to let it go. -/
  listed : ∀ a ∈ s.listHead, ∃ r, s.mem a = some r ∧
    (r.selfMutex = none ∨ s.pc = .process a ∨ s.pc = .del a ∨
      ∃ k, r.selfMutex = some (.call k) ∧ s.calls k = .added a)
  thread : ThreadInv s

theorem captureInv_init : CaptureInv captureInit where
  log := rfl
  distinct := List.nodup_nil
  once := List.nodup_nil
  calls _ := List.not_mem_nil
  listed _ ha := absurd ha List.not_mem_nil
  thread := trivial

/-! ## Whose a record is -/

theorem CallInv.owned (h : CallInv s k) (ha : (s.calls k).record = some a) :
    ∃ r, s.mem a = some r ∧ r.selfMutex = some (.call k) := by
  unfold CallInv at h
  cases hpc : s.calls k with
  | idle => simp [hpc, CallPc.record] at ha
  | returned => simp [hpc, CallPc.record] at ha
  | locked b d =>
      obtain rfl : b = a := by simpa [hpc, CallPc.record] using ha
      rw [hpc] at h
      exact ⟨_, h.2.2, rfl⟩
  | written b d =>
      obtain rfl : b = a := by simpa [hpc, CallPc.record] using ha
      rw [hpc] at h
      exact ⟨_, h.2.2, rfl⟩
  | added b =>
      obtain rfl : b = a := by simpa [hpc, CallPc.record] using ha
      rw [hpc] at h
      obtain ⟨-, d, hd⟩ := h
      exact ⟨_, hd, rfl⟩

/-- A call that has not let go of its record keeps everybody else away from it. -/
theorem CallInv.record_ne (h : CallInv s k) {o : Option Holder} (ha : LockedBy s a o)
    (ho : o ≠ some (.call k)) : (s.calls k).record ≠ some a := by
  intro hrec
  obtain ⟨r, hr, hmutex⟩ := h.owned hrec
  obtain ⟨r', hr', hmutex'⟩ := ha
  obtain rfl := Option.some.inj (hr.symm.trans hr')
  exact ho (hmutex'.symm.trans hmutex)

theorem CaptureInv.record_inj (h : CaptureInv s) {k' : ℕ} (hk : (s.calls k).record = some a)
    (hk' : (s.calls k').record = some a) : k' = k := by
  obtain ⟨r, hr, hmutex⟩ := (h.calls k).owned hk
  by_contra hne
  refine (h.calls k').record_ne ⟨r, hr, hmutex⟩ (fun heq => ?_) hk'
  injection heq with heq
  injection heq with heq
  exact hne heq.symm

/-- The record of the thread is allocated; it is locked by a call only as long as it is in the list. -/
theorem CaptureInv.taken (h : CaptureInv s) (ha : s.pc.record = some a) :
    s.pc = .lock a ∧ a ∈ s.listHead ∨ LockedBy s a (some .database) ∨ LockedBy s a none := by
  have hthread := h.thread
  unfold ThreadInv at hthread
  cases hpc : s.pc with
  | next => simp [hpc, DatabasePc.record] at ha
  | ended => simp [hpc, DatabasePc.record] at ha
  | lock b =>
      obtain rfl : b = a := by simpa [hpc, DatabasePc.record] using ha
      rw [hpc] at hthread
      exact .inl ⟨rfl, List.mem_of_mem_head? hthread⟩
  | process b =>
      obtain rfl : b = a := by simpa [hpc, DatabasePc.record] using ha
      rw [hpc] at hthread
      exact .inr (.inl hthread.2)
  | del b =>
      obtain rfl : b = a := by simpa [hpc, DatabasePc.record] using ha
      rw [hpc] at hthread
      exact .inr (.inl hthread.2)
  | unlock b =>
      obtain rfl : b = a := by simpa [hpc, DatabasePc.record] using ha
      rw [hpc] at hthread
      exact .inr (.inl hthread.2)
  | destroy b =>
      obtain rfl : b = a := by simpa [hpc, DatabasePc.record] using ha
      rw [hpc] at hthread
      exact .inr (.inr hthread.2)
  | free b =>
      obtain rfl : b = a := by simpa [hpc, DatabasePc.record] using ha
      rw [hpc] at hthread
      exact .inr (.inr hthread.2)

theorem CaptureInv.delivered (h : CaptureInv s) : Delivered s := by
  have hlog := h.log
  have hmap : ∀ l : List (ℕ × Option DataAtt), (l.map some).filterMap id = l := by simp
  have hlisted : ∀ a ∈ s.listHead, (s.mem a).isSome = true := by
    intro a ha
    obtain ⟨r, hr, -⟩ := h.listed a ha
    simp [hr]
  refine ⟨?_, h.once, fun hnil => ?_, hlisted, fun k a hk => ?_, fun a ha => ?_⟩
  · have hpre := List.prefix_append ((s.processed.map some).filterMap id)
      (((todo s).map (entry s.mem)).filterMap id)
    rwa [← List.filterMap_append, ← hlog, hmap, hmap] at hpre
  · have htodo : todo s = [] := by
      unfold todo
      split <;> simp [hnil]
    rw [htodo, List.map_nil, List.append_nil] at hlog
    exact (List.map_injective_iff.2 (Option.some_injective _) hlog).symm
  · obtain ⟨r, hr, -⟩ := (h.calls k).owned hk
    simp [hr]
  · rcases h.taken ha with ⟨-, hmem⟩ | ⟨r, hr, -⟩ | ⟨r, hr, -⟩
    · exact hlisted a hmem
    · simp [hr]
    · simp [hr]

/-! ## Frames -/

/-- A call whose record stays as it is and where it is. -/
theorem CallInv.frame (h : CallInv s k) (hcalls : s'.calls k = s.calls k)
    (hrec : ∀ a, (s.calls k).record = some a → s'.mem a = s.mem a ∧
      (a ∈ s'.listHead ↔ a ∈ s.listHead))
    (hacc : k ∈ s'.accepted.map Prod.fst ↔ k ∈ s.accepted.map Prod.fst) : CallInv s' k := by
  unfold CallInv at h ⊢
  rw [hcalls]
  cases hpc : s.calls k with
  | idle =>
      rw [hpc] at h
      exact fun hmem => h (hacc.1 hmem)
  | returned => trivial
  | locked b d =>
      rw [hpc] at h hrec
      obtain ⟨hb, hin⟩ := hrec b rfl
      exact ⟨fun hmem => h.1 (hacc.1 hmem), fun hmem => h.2.1 (hin.1 hmem), hb.trans h.2.2⟩
  | written b d =>
      rw [hpc] at h hrec
      obtain ⟨hb, hin⟩ := hrec b rfl
      exact ⟨fun hmem => h.1 (hacc.1 hmem), fun hmem => h.2.1 (hin.1 hmem), hb.trans h.2.2⟩
  | added b =>
      rw [hpc] at h hrec
      obtain ⟨hb, hin⟩ := hrec b rfl
      obtain ⟨hmem, d, hd⟩ := h
      exact ⟨hin.2 hmem, d, hb.trans hd⟩

theorem entry_update_of_ne {mem : ℕ → Option DataAttList} {v : Option DataAttList} {b : ℕ}
    (h : b ≠ a) : entry (Function.update mem a v) b = entry mem b := by
  rw [entry, entry, Function.update_of_ne h]

/-- Who holds the mutex does not matter for what a record holds. -/
theorem entry_update_mutex {mem : ℕ → Option DataAttList} {r : DataAttList} {o : Option Holder}
    (h : mem a = some r) :
    entry (Function.update mem a (some { r with selfMutex := o })) = entry mem := by
  funext b
  by_cases hb : b = a
  · subst hb
    rw [entry, entry, Function.update_self, h]
    rfl
  · exact entry_update_of_ne hb

theorem LockedBy.update_of_ne {o : Option Holder} (h : LockedBy s a o) {b : ℕ} (hb : a ≠ b)
    {v : Option DataAttList} (hmem : s'.mem = Function.update s.mem b v) : LockedBy s' a o := by
  obtain ⟨r, hr, hmutex⟩ := h
  exact ⟨r, by rw [hmem, Function.update_of_ne hb, hr], hmutex⟩

theorem ThreadInv.frame (h : ThreadInv s) (hpc : s'.pc = s.pc)
    (hhead : ∀ a, s.listHead.head? = some a → s'.listHead.head? = some a)
    (hout : ∀ a, s.pc.record = some a → a ∉ s.listHead → a ∉ s'.listHead)
    (hlocked : ∀ a o, s.pc.record = some a → o = some .database ∨ o = none → LockedBy s a o →
      LockedBy s' a o)
    (hexit : s.innerExitFlag = false → s'.innerExitFlag = false) : ThreadInv s' := by
  unfold ThreadInv at h ⊢
  rw [hpc]
  cases hthread : s.pc with
  | next => trivial
  | ended =>
      rw [hthread] at h
      exact hexit h
  | lock a =>
      rw [hthread] at h
      exact hhead a h
  | process a =>
      rw [hthread] at h hlocked
      exact ⟨hhead a h.1, hlocked a _ rfl (.inl rfl) h.2⟩
  | del a =>
      rw [hthread] at h hlocked
      exact ⟨hhead a h.1, hlocked a _ rfl (.inl rfl) h.2⟩
  | unlock a =>
      rw [hthread] at h hlocked hout
      exact ⟨hout a rfl h.1, hlocked a _ rfl (.inl rfl) h.2⟩
  | destroy a =>
      rw [hthread] at h hlocked hout
      exact ⟨hout a rfl h.1, hlocked a _ rfl (.inr rfl) h.2⟩
  | free a =>
      rw [hthread] at h hlocked hout
      exact ⟨hout a rfl h.1, hlocked a _ rfl (.inr rfl) h.2⟩

/-! ## Steps of a call -/

/-- A call works on a record that nobody else has seen yet. -/
theorem CaptureInv.fill {v : Option DataAttList} {c : CallPc} (h : CaptureInv s)
    (hout : a ∉ s.listHead) (hthread : s.pc.record ≠ some a)
    (hothers : ∀ k', k' ≠ k → (s.calls k').record ≠ some a) (hadded : ∀ b, s.calls k ≠ .added b)
    (hnew : CallInv { s with
      mem := Function.update s.mem a v, calls := Function.update s.calls k c } k) :
    CaptureInv { s with
      mem := Function.update s.mem a v, calls := Function.update s.calls k c } := by
  have hne : ∀ b ∈ s.listHead, b ≠ a := by
    rintro b hb rfl
    exact hout hb
  refine ⟨?_, h.distinct, h.once, fun k' => ?_, fun b hb => ?_, ?_⟩
  · have hsame : (todo s).map (entry (Function.update s.mem a v)) = (todo s).map (entry s.mem) := by
      refine List.map_congr_left fun b hb => entry_update_of_ne (hne b ?_)
      unfold todo at hb
      split at hb
      · exact List.mem_of_mem_tail hb
      · exact hb
    exact h.log.trans (congrArg _ hsame.symm)
  · by_cases hk : k' = k
    · subst hk
      exact hnew
    · refine (h.calls k').frame (Function.update_of_ne hk _ _) (fun b hb => ⟨?_, .rfl⟩) .rfl
      refine Function.update_of_ne ?_ _ _
      rintro rfl
      exact hothers k' hk hb
  · obtain ⟨r, hr, hwho⟩ := h.listed b hb
    refine ⟨r, (Function.update_of_ne (hne b hb) _ _).trans hr, ?_⟩
    rcases hwho with hfree | hpc | hpc | ⟨k', hmutex, hk'⟩
    · exact .inl hfree
    · exact .inr (.inl hpc)
    · exact .inr (.inr (.inl hpc))
    · refine .inr (.inr (.inr ⟨k', hmutex, ?_⟩))
      have hk : k' ≠ k := by
        rintro rfl
        exact hadded b hk'
      exact (Function.update_of_ne hk _ _).trans hk'
  · refine h.thread.frame rfl (fun _ => id) (fun _ _ => id) (fun b o hb _ hlock => ?_) id
    refine hlock.update_of_ne ?_ rfl
    rintro rfl
    exact hthread hb

theorem CaptureInv.call {d : DataAtt} (h : CaptureInv s) (hk : s.calls k = .idle)
    (hmem : s.mem a = none) :
    CaptureInv { s with
      mem := Function.update s.mem a (some ⟨none, some (.call k), k⟩)
      calls := Function.update s.calls k (.locked a d) } := by
  have hacc : k ∉ s.accepted.map Prod.fst := by
    have hcall := h.calls k
    rwa [CallInv, hk] at hcall
  have hout : a ∉ s.listHead := by
    intro ha
    obtain ⟨r, hr, -⟩ := h.listed a ha
    cases hmem.symm.trans hr
  refine h.fill hout (fun hpc => ?_) (fun k' _ hk' => ?_) (by simp [hk]) ?_
  · rcases h.taken hpc with ⟨-, ha⟩ | ⟨r, hr, -⟩ | ⟨r, hr, -⟩
    · exact hout ha
    · cases hmem.symm.trans hr
    · cases hmem.symm.trans hr
  · obtain ⟨r, hr, -⟩ := (h.calls k').owned hk'
    cases hmem.symm.trans hr
  · simp only [CallInv, Function.update_self]
    exact ⟨hacc, hout, trivial⟩

theorem CaptureInv.write {d : DataAtt} {r : DataAttList} (h : CaptureInv s)
    (hk : s.calls k = .locked a d) (hr : s.mem a = some r) :
    CaptureInv { s with
      mem := Function.update s.mem a (some { r with dataAtt := some d })
      calls := Function.update s.calls k (.written a d) } := by
  have hcall := h.calls k
  rw [CallInv, hk] at hcall
  obtain ⟨hacc, hout, hmem⟩ := hcall
  obtain rfl := Option.some.inj (hmem.symm.trans hr)
  have hrec : (s.calls k).record = some a := by rw [hk, CallPc.record]
  refine h.fill hout (fun hpc => ?_) (fun k' hne hk' => hne (h.record_inj hrec hk')) (by simp [hk]) ?_
  · rcases h.taken hpc with ⟨-, ha⟩ | hlock | hlock
    · exact hout ha
    · exact (h.calls k).record_ne hlock (by simp) hrec
    · exact (h.calls k).record_ne hlock (by simp) hrec
  · simp only [CallInv, Function.update_self]
    exact ⟨hacc, hout, trivial⟩

theorem CaptureInv.add {d : DataAtt} (h : CaptureInv s) (hk : s.calls k = .written a d) :
    CaptureInv { s with
      listHead := handleManageAddHandle s.listHead a
      calls := Function.update s.calls k (.added a)
      accepted := s.accepted ++ [(k, d)] } := by
  have hcall := h.calls k
  rw [CallInv, hk] at hcall
  obtain ⟨hacc, hout, hmem⟩ := hcall
  have hrec : (s.calls k).record = some a := by rw [hk, CallPc.record]
  have hentry : entry s.mem a = some (k, some d) := by
    rw [entry, hmem]
    rfl
  refine ⟨?_, ?_, ?_, fun k' => ?_, fun b hb => ?_, ?_⟩
  -- while a record is deleted it is the head of the list, so the new one comes behind what is left
  · have htodo : ∀ s' : CaptureState, s'.pc = s.pc → s'.listHead = s.listHead ++ [a] →
        todo s' = todo s ++ [a] := by
      intro s' hpc hlist
      have hthread := h.thread
      unfold ThreadInv at hthread
      unfold todo
      rw [hpc, hlist]
      split
      · next b hdel =>
          rw [hdel] at hthread
          cases hl : s.listHead with
          | nil => simp [hl] at hthread
          | cons c l => rfl
      · rfl
    have hlog := h.log
    rw [htodo]
    · simp only [complete, List.map_append, List.map_cons, List.map_nil, hentry] at hlog ⊢
      rw [hlog, List.append_assoc]
    · rfl
    · rfl
  · exact h.distinct.append (List.nodup_singleton a) (by simpa using hout)
  · dsimp only
    rw [List.map_append]
    exact h.once.append (List.nodup_singleton k) (by simpa using hacc)
  · by_cases hne : k' = k
    · subst hne
      simp only [CallInv, Function.update_self]
      exact ⟨List.mem_append_right _ (List.mem_singleton_self a), d, hmem⟩
    · refine (h.calls k').frame (Function.update_of_ne hne _ _) (fun b hb => ⟨rfl, ?_⟩) ?_
      · have hba : b ≠ a := by
          rintro rfl
          exact hne (h.record_inj hrec hb)
        simp [handleManageAddHandle, hba]
      · simp [hne]
  · rcases List.mem_append.1 hb with hb | hb
    · obtain ⟨r, hr, hwho⟩ := h.listed b hb
      refine ⟨r, hr, hwho.imp_right (.imp_right (.imp_right fun ⟨k', hmutex, hk'⟩ => ?_))⟩
      have hne : k' ≠ k := by
        rintro rfl
        cases hk.symm.trans hk'
      exact ⟨k', hmutex, (Function.update_of_ne hne _ _).trans hk'⟩
    · obtain rfl := List.mem_singleton.1 hb
      exact ⟨_, hmem, .inr (.inr (.inr ⟨k, rfl, Function.update_self _ _ _⟩))⟩
  · refine h.thread.frame rfl (fun b hb => ?_) (fun b hpc hb => ?_) (fun _ _ _ _ => id) id
    · simp [handleManageAddHandle, List.head?_append, hb]
    · have hba : b ≠ a := by
        rintro rfl
        rcases h.taken hpc with ⟨-, hin⟩ | hlock | hlock
        · exact hb hin
        · exact (h.calls k).record_ne hlock (by simp) hrec
        · exact (h.calls k).record_ne hlock (by simp) hrec
      simp [handleManageAddHandle, hb, hba]

theorem CaptureInv.unlock {r : DataAttList} (h : CaptureInv s) (hk : s.calls k = .added a)
    (hr : s.mem a = some r) :
    CaptureInv { s with
      mem := Function.update s.mem a (some { r with selfMutex := none })
      calls := Function.update s.calls k .returned } := by
  have hrec : (s.calls k).record = some a := by rw [hk, CallPc.record]
  refine ⟨?_, h.distinct, h.once, fun k' => ?_, fun b hb => ?_, ?_⟩
  · dsimp only
    rw [entry_update_mutex hr]
    exact h.log
  · by_cases hne : k' = k
    · subst hne
      simp only [CallInv, Function.update_self]
    · refine (h.calls k').frame (Function.update_of_ne hne _ _) (fun b hb => ⟨?_, .rfl⟩) .rfl
      refine Function.update_of_ne ?_ _ _
      rintro rfl
      exact hne (h.record_inj hrec hb)
  · by_cases hba : b = a
    · subst hba
      exact ⟨_, Function.update_self _ _ _, .inl rfl⟩
    · obtain ⟨r', hr', hwho⟩ := h.listed b hb
      refine ⟨r', (Function.update_of_ne hba _ _).trans hr',
        hwho.imp_right (.imp_right (.imp_right fun ⟨k', hmutex, hk'⟩ => ?_))⟩
      have hne : k' ≠ k := by
        rintro rfl
        injection hk.symm.trans hk' with hab
        exact hba hab.symm
      exact ⟨k', hmutex, (Function.update_of_ne hne _ _).trans hk'⟩
  · refine h.thread.frame rfl (fun _ => id) (fun _ _ => id) (fun b o hb ho hlock => ?_) id
    refine hlock.update_of_ne ?_ rfl
    rintro rfl
    exact (h.calls k).record_ne hlock (by rcases ho with rfl | rfl <;> simp) hrec

/-! ## Steps of the thread -/

/-- The thread works on a record that no call accesses any more. -/
theorem CaptureInv.callsKept (h : CaptureInv s) {o : Option Holder} (hlock : LockedBy s a o)
    (ho : o = some .database ∨ o = none) (hcalls : s'.calls = s.calls)
    (haccepted : s'.accepted = s.accepted) (hmem : ∀ b, b ≠ a → s'.mem b = s.mem b)
    (hlist : ∀ b, b ≠ a → (b ∈ s'.listHead ↔ b ∈ s.listHead)) (k : ℕ) : CallInv s' k := by
  refine (h.calls k).frame (by rw [hcalls]) (fun b hb => ?_) (by rw [haccepted])
  have hba : b ≠ a := by
    rintro rfl
    exact (h.calls k).record_ne hlock (by rcases ho with rfl | rfl <;> simp) hb
  exact ⟨hmem b hba, hlist b hba⟩

theorem todo_of_ne (h : ∀ b, s.pc ≠ .del b) : todo s = s.listHead := by
  unfold todo
  split
  · next b hdel => exact absurd hdel (h b)
  · rfl

/-- A record of the list that the thread is not at work on is free, or its call is about to let it go. -/
theorem CaptureInv.untouched (h : CaptureInv s) {b : ℕ} (hb : b ∈ s.listHead)
    (hproc : s.pc ≠ .process b) (hdel : s.pc ≠ .del b) : ∃ r, s.mem b = some r ∧
      (r.selfMutex = none ∨ ∃ k, r.selfMutex = some (.call k) ∧ s.calls k = .added b) := by
  obtain ⟨r, hr, hwho⟩ := h.listed b hb
  refine ⟨r, hr, ?_⟩
  rcases hwho with hfree | hpc | hpc | hcall
  · exact .inl hfree
  · exact absurd hpc hproc
  · exact absurd hpc hdel
  · exact .inr hcall

/-- A step of the thread while its record, if it has one, is not in the list. -/
theorem CaptureInv.setPc {mem : ℕ → Option DataAttList} {pc : DatabasePc} (h : CaptureInv s)
    (hproc : ∀ b, s.pc ≠ .process b) (hdel : ∀ b, s.pc ≠ .del b) (hdel' : ∀ b, pc ≠ .del b)
    (hmem : ∀ b ∈ s.listHead, mem b = s.mem b)
    (hcalls : ∀ k, CallInv { s with mem := mem, pc := pc } k)
    (hthread : ThreadInv { s with mem := mem, pc := pc }) :
    CaptureInv { s with mem := mem, pc := pc } := by
  refine ⟨?_, h.distinct, h.once, hcalls, fun b hb => ?_, hthread⟩
  · have hlog := h.log
    rw [todo_of_ne hdel] at hlog
    rw [todo_of_ne hdel', hlog]
    refine congrArg _ (List.map_congr_left fun b hb => ?_)
    exact congrArg (Option.map _) (hmem b hb).symm
  · obtain ⟨r, hr, hwho⟩ := h.untouched hb (hproc b) (hdel b)
    exact ⟨r, (hmem b hb).trans hr, hwho.imp_right fun hcall => .inr (.inr hcall)⟩

theorem CaptureInv.next (h : CaptureInv s) (hpc : s.pc = .next) :
    CaptureInv { s with
      pc := match handleManageGetNextHandle s.listHead with
        | none => .next
        | some handle => .lock handle } := by
  refine h.setPc (by simp [hpc]) (by simp [hpc]) (fun b => ?_) (fun _ _ => rfl) (fun k => ?_) ?_
  · split <;> nofun
  · exact (h.calls k).frame rfl (fun _ _ => ⟨rfl, .rfl⟩) .rfl
  · cases hhead : handleManageGetNextHandle s.listHead with
    | none => trivial
    | some b => exact hhead

theorem CaptureInv.leave (h : CaptureInv s) (hpc : s.pc = .next) (hexit : s.innerExitFlag = false) :
    CaptureInv { s with pc := .ended } := by
  refine h.setPc (by simp [hpc]) (by simp [hpc]) nofun (fun _ _ => rfl) (fun k => ?_) hexit
  exact (h.calls k).frame rfl (fun _ _ => ⟨rfl, .rfl⟩) .rfl

theorem CaptureInv.lock {r : DataAttList} (h : CaptureInv s) (hpc : s.pc = .lock a)
    (hr : s.mem a = some r) (hfree : r.selfMutex = none) :
    CaptureInv { s with
      mem := Function.update s.mem a (some { r with selfMutex := some .database })
      pc := .process a } := by
  have hthread := h.thread
  rw [ThreadInv, hpc] at hthread
  refine ⟨?_, h.distinct, h.once, ?_, fun b hb => ?_, ?_⟩
  · have hlog := h.log
    rw [todo, hpc] at hlog
    dsimp only
    rw [entry_update_mutex hr]
    exact hlog
  · exact h.callsKept ⟨r, hr, hfree⟩ (.inr rfl) rfl rfl
      (fun b hba => Function.update_of_ne hba _ _) fun _ _ => .rfl
  · by_cases hba : b = a
    · subst hba
      exact ⟨_, Function.update_self _ _ _, .inr (.inl rfl)⟩
    · obtain ⟨r', hr', hwho⟩ := h.untouched hb (by simp [hpc]) (by simp [hpc])
      exact ⟨r', (Function.update_of_ne hba _ _).trans hr',
        hwho.imp_right fun hcall => .inr (.inr hcall)⟩
  · exact ⟨hthread, _, Function.update_self _ _ _, rfl⟩

theorem CaptureInv.process {r : DataAttList} (h : CaptureInv s) (hpc : s.pc = .process a)
    (hr : s.mem a = some r) :
    CaptureInv { s with
      pc := .del a
      processed := s.processed ++ [(r.call, r.dataAtt)] } := by
  have hthread := h.thread
  rw [ThreadInv, hpc] at hthread
  obtain ⟨l, hl⟩ := List.head?_eq_some_iff.1 hthread.1
  refine ⟨?_, h.distinct, h.once, ?_, fun b hb => ?_, hthread⟩
  · have hlog := h.log
    rw [todo, hpc] at hlog
    have hentry : entry s.mem a = some (r.call, r.dataAtt) := by
      rw [entry, hr]
      rfl
    dsimp only [todo] at hlog ⊢
    rw [hlog, hl, List.map_cons, hentry, List.map_append, List.append_assoc]
    rfl
  · exact h.callsKept hthread.2 (.inl rfl) rfl rfl (fun _ _ => rfl) fun _ _ => .rfl
  · by_cases hba : b = a
    · exact ⟨r, hba ▸ hr, .inr (.inr (.inl (by rw [hba])))⟩
    · obtain ⟨r', hr', hwho⟩ := h.untouched hb (by simp [hpc, Ne.symm hba]) (by simp [hpc])
      exact ⟨r', hr', hwho.imp_right fun hcall => .inr (.inr hcall)⟩

theorem CaptureInv.del (h : CaptureInv s) (hpc : s.pc = .del a) :
    CaptureInv { s with
      pc := .unlock a
      listHead := handleManageDelHandle s.listHead a } := by
  have hthread := h.thread
  rw [ThreadInv, hpc] at hthread
  obtain ⟨l, hl⟩ := List.head?_eq_some_iff.1 hthread.1
  have hdel : handleManageDelHandle s.listHead a = l := by
    rw [handleManageDelHandle, hl, List.erase_cons_head]
  have hdistinct := h.distinct
  rw [hl, List.nodup_cons] at hdistinct
  rw [hdel]
  refine ⟨?_, hdistinct.2, h.once, ?_, fun b hb => ?_, hdistinct.1, hthread.2⟩
  · have hlog := h.log
    rw [todo, hpc] at hlog
    dsimp only at hlog
    rwa [hl, List.tail_cons] at hlog
  · refine h.callsKept hthread.2 (.inl rfl) rfl rfl (fun _ _ => rfl) fun b hba => ?_
    rw [hl, List.mem_cons]
    exact ⟨.inr, fun hb => hb.resolve_left hba⟩
  · have hba : a ≠ b := by
      rintro rfl
      exact hdistinct.1 hb
    have hmem : b ∈ s.listHead := by
      rw [hl]
      exact List.mem_cons_of_mem a hb
    obtain ⟨r, hr, hwho⟩ := h.untouched hmem (by simp [hpc]) (by simp [hpc, hba])
    exact ⟨r, hr, hwho.imp_right fun hcall => .inr (.inr hcall)⟩

theorem CaptureInv.unlockRecord {r : DataAttList} (h : CaptureInv s) (hpc : s.pc = .unlock a)
    (hr : s.mem a = some r) :
    CaptureInv { s with
      mem := Function.update s.mem a (some { r with selfMutex := none })
      pc := .destroy a } := by
  have hthread := h.thread
  rw [ThreadInv, hpc] at hthread
  refine h.setPc (by simp [hpc]) (by simp [hpc]) nofun (fun b hb => ?_) ?_ ?_
  · refine Function.update_of_ne ?_ _ _
    rintro rfl
    exact hthread.1 hb
  · exact h.callsKept hthread.2 (.inl rfl) rfl rfl (fun b hba => Function.update_of_ne hba _ _)
      fun _ _ => .rfl
  · exact ⟨hthread.1, _, Function.update_self _ _ _, rfl⟩

theorem CaptureInv.destroy (h : CaptureInv s) (hpc : s.pc = .destroy a) :
    CaptureInv { s with pc := .free a } := by
  have hthread := h.thread
  rw [ThreadInv, hpc] at hthread
  refine h.setPc (by simp [hpc]) (by simp [hpc]) nofun (fun _ _ => rfl) (fun k => ?_) hthread
  exact (h.calls k).frame rfl (fun _ _ => ⟨rfl, .rfl⟩) .rfl

theorem CaptureInv.free (h : CaptureInv s) (hpc : s.pc = .free a) :
    CaptureInv { s with mem := Function.update s.mem a none, pc := .next } := by
  have hthread := h.thread
  rw [ThreadInv, hpc] at hthread
  refine h.setPc (by simp [hpc]) (by simp [hpc]) nofun (fun b hb => ?_) ?_ trivial
  · refine Function.update_of_ne ?_ _ _
    rintro rfl
    exact hthread.1 hb
  · exact h.callsKept hthread.2 (.inr rfl) rfl rfl (fun b hba => Function.update_of_ne hba _ _)
      fun _ _ => .rfl

theorem CaptureInv.unInit (h : CaptureInv s) : CaptureInv { s with innerExitFlag := false } := by
  refine ⟨h.log, h.distinct, h.once, fun k => ?_, h.listed, ?_⟩
  · exact (h.calls k).frame rfl (fun _ _ => ⟨rfl, .rfl⟩) .rfl
  · exact h.thread.frame rfl (fun _ => id) (fun _ _ => id) (fun _ _ _ _ => id) fun _ => rfl

theorem captureInv_step (h : CaptureInv s) (hs : CaptureStep s e s') : CaptureInv s' := by
  cases hs with
  | call hk hmem => exact h.call hk hmem
  | write hk hr => exact h.write hk hr
  | add hk => exact h.add hk
  | unlock hk hr => exact h.unlock hk hr
  | next hpc _ => exact h.next hpc
  | lock hpc hr hfree => exact h.lock hpc hr hfree
  | process hpc hr => exact h.process hpc hr
  | del hpc => exact h.del hpc
  | unlockRecord hpc hr => exact h.unlockRecord hpc hr
  | destroy hpc _ _ => exact h.destroy hpc
  | free hpc _ => exact h.free hpc
  | unInit => exact h.unInit
  | leave hpc hexit => exact h.leave hpc hexit

/-! ## Nothing is left behind -/

/-- How far the thread is from being through with the list. -/
def rank (s : CaptureState) : ℕ :=
  10 * s.listHead.length + match s.pc with
    | .next => 5
    | .lock a => if ∃ r, s.mem a = some r ∧ r.selfMutex = none then 3 else 4
    | .process _ => 2
    | .del _ => 1
    | .unlock _ => 8
    | .destroy _ => 7
    | .free _ => 6
    | .ended => 0

/-- As long as the thread has work and is not told to leave, it can go on, or the call that has linked
    the record it waits for can; either brings the end nearer. -/
theorem CaptureInv.advance (h : CaptureInv s) (hflag : s.innerExitFlag = true)
    (hwork : s.pc ≠ .next ∨ s.listHead ≠ []) : ∃ e s', CaptureStep s e s' ∧
      s'.innerExitFlag = true ∧ s'.accepted = s.accepted ∧ rank s' < rank s := by
  have hthread := h.thread
  unfold ThreadInv at hthread
  cases hpc : s.pc with
  | next =>
      obtain ⟨a, l, hl⟩ := List.exists_cons_of_ne_nil (hwork.resolve_left (absurd hpc))
      refine ⟨_, _, .next hpc hflag, hflag, rfl, ?_⟩
      rw [hl]
      dsimp only [rank, handleManageGetNextHandle, List.head?_cons]
      rw [hpc, hl]
      split <;> simp
  | lock a =>
      rw [hpc] at hthread
      obtain ⟨r, hr, hwho⟩ := h.untouched (List.mem_of_mem_head? hthread) (by simp [hpc])
        (by simp [hpc])
      -- the mutex is free, or the call that has linked the record unlocks it first
      rcases hwho with hfree | ⟨k, hmutex, hk⟩
      · refine ⟨_, _, .lock hpc hr hfree, hflag, rfl, ?_⟩
        simp only [rank, hpc, if_pos (⟨r, hr, hfree⟩ : ∃ r, s.mem a = some r ∧ r.selfMutex = none)]
        omega
      · refine ⟨_, _, .unlock hk hr, hflag, rfl, ?_⟩
        have hheld : ¬ ∃ r, s.mem a = some r ∧ r.selfMutex = none := by
          intro ⟨r', hr', hfree⟩
          obtain rfl := Option.some.inj (hr.symm.trans hr')
          cases hmutex.symm.trans hfree
        simp [rank, hpc, hheld]
  | process a =>
      rw [hpc] at hthread
      obtain ⟨-, r, hr, -⟩ := hthread
      refine ⟨_, _, .process hpc hr, hflag, rfl, ?_⟩
      simp only [rank, hpc]
      omega
  | del a =>
      rw [hpc] at hthread
      obtain ⟨l, hl⟩ := List.head?_eq_some_iff.1 hthread.1
      refine ⟨_, _, .del hpc, hflag, rfl, ?_⟩
      simp only [rank, hpc, handleManageDelHandle, hl, List.erase_cons_head, List.length_cons]
      omega
  | unlock a =>
      rw [hpc] at hthread
      obtain ⟨-, r, hr, -⟩ := hthread
      refine ⟨_, _, .unlockRecord hpc hr, hflag, rfl, ?_⟩
      simp only [rank, hpc]
      omega
  | destroy a =>
      rw [hpc] at hthread
      obtain ⟨-, r, hr, hfree⟩ := hthread
      refine ⟨_, _, .destroy hpc hr hfree, hflag, rfl, ?_⟩
      simp only [rank, hpc]
      omega
  | free a =>
      rw [hpc] at hthread
      obtain ⟨-, r, hr, -⟩ := hthread
      refine ⟨_, _, .free hpc hr, hflag, rfl, ?_⟩
      simp only [rank, hpc]
      omega
  | ended =>
      rw [hpc] at hthread
      cases hthread.symm.trans hflag

/-- From every state the thread can get through with all that was accepted. -/
theorem CaptureInv.finish (h : CaptureInv s) (hflag : s.innerExitFlag = true) :
    ∃ tr s', Run CaptureStep s tr s' ∧ s'.accepted = s.accepted ∧
      s'.processed = complete s.accepted := by
  induction hn : rank s using Nat.strong_induction_on generalizing s with
  | _ n ih =>
      by_cases hwork : s.pc ≠ .next ∨ s.listHead ≠ []
      · obtain ⟨e, s₁, hs, hflag₁, hacc₁, hrank⟩ := h.advance hflag hwork
        obtain ⟨tr, s', hrun, hacc, hprocessed⟩ :=
          ih (rank s₁) (hn ▸ hrank) (captureInv_step h hs) hflag₁ rfl
        rw [hacc₁] at hacc hprocessed
        exact ⟨_, s', (Run.nil.snoc hs).append hrun, hacc, hprocessed⟩
      · rw [not_or, not_not, not_not] at hwork
        exact ⟨[], s, .nil, rfl, h.delivered.all hwork.2⟩

/-- **First in, first out, nothing lost.** For every interleaving of any number of calls of
    `AddVehicleInfo` with the thread: the thread has worked on the records in the order in which they
    were accepted, on each once and completely written; no record that is in the list or still accessed
    is freed; and as long as the thread is not told to leave, it can get through with all of them. -/
theorem capture_queue {tr : List CaptureEvent} (h : Run CaptureStep captureInit tr s) :
    Delivered s ∧ (s.innerExitFlag = true → ∃ tr' s', Run CaptureStep s tr' s' ∧
      s'.accepted = s.accepted ∧ s'.processed = complete s.accepted) := by
  have hinv : CaptureInv s := h.stateInvariant CaptureInv captureInv_init
    fun s e s' hI hs => captureInv_step hI hs
  exact ⟨hinv.delivered, hinv.finish⟩

/-- Two captures arrive at once and the later call links its record first: that record is worked on and
    freed while the other waits. -/
theorem capture_queue_two : ∃ tr s, Run CaptureStep captureInit tr s ∧
    s.accepted = [(1, ⟨1, .zero⟩), (0, .zero)] ∧ s.processed = [(1, some ⟨1, .zero⟩)] ∧
    s.listHead = [0] ∧ s.mem 1 = none ∧ Delivered s ∧ ∃ tr' s', Run CaptureStep s tr' s' ∧
      s'.processed = [(1, some ⟨1, .zero⟩), (0, some .zero)] := by
  have hlinked : Run CaptureStep captureInit [.call 0 0 .zero, .call 1 1 ⟨1, .zero⟩, .write 1, .add 1,
      .write 0, .add 0, .unlock 1, .next] _ :=
    (((((((Run.nil.snoc (.call rfl rfl)).snoc (.call rfl rfl)).snoc (.write rfl rfl)).snoc
      (.add rfl)).snoc (.write rfl rfl)).snoc (.add rfl)).snoc (.unlock rfl rfl)).snoc (.next rfl rfl)
  have hrun : Run CaptureStep captureInit ([.call 0 0 .zero, .call 1 1 ⟨1, .zero⟩, .write 1, .add 1,
      .write 0, .add 0, .unlock 1, .next] ++
        [.lock, .process, .del, .unlockRecord, .destroy, .free]) _ :=
    hlinked.append ((((((Run.nil.snoc (.lock rfl rfl rfl)).snoc (.process rfl rfl)).snoc
      (.del rfl)).snoc (.unlockRecord rfl rfl)).snoc (.destroy rfl rfl rfl)).snoc (.free rfl rfl))
  obtain ⟨hdelivered, hdrain⟩ := capture_queue hrun
  obtain ⟨tr', s', hrun', -, hprocessed⟩ := hdrain rfl
  exact ⟨_, _, hrun, rfl, rfl, rfl, rfl, hdelivered, tr', s', hrun', hprocessed⟩

end SmartPlat.VehicleDataAnalysis
