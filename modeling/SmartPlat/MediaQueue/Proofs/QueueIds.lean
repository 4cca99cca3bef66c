import SmartPlat.MediaQueue.Queue
import SmartPlat.Lib.Transition

set_option autoImplicit false

/-! # Media queue: ids given out by concurrent calls

The lock of a queue makes sure that its id is given out once. What `GetQueueID` has seen is another
matter: each queue was in use when its lock was held, all of them never need to be at once, and what
was free when it was chosen can be gone when it is claimed. -/

namespace SmartPlat.MediaQueue

open SmartPlat.Lib

variable {s s' : CreateState} {g g' : CallRecord} {e : CreateEvent} {t : ℕ} {i : Fin queueChnMax}

/-- What the record says in every state. -/
structure RecordInv (s : CreateState) (g : CallRecord) : Prop where
  /-- The ids that are out are those in use. -/
  live : ∀ i, i ∈ g.live ↔ (s.queueHandle i).enabled = true
  nodup : g.live.Nodup
  /-- What `GetQueueID` has passed was in use. -/
  passed : ∀ t k queueSize, s.pc t = .scan k queueSize → ∀ i : Fin queueChnMax, 1 ≤ i.val →
    i.val < k → g.inUse t i = true
  /-- What was chosen and is in use has been created by another thread. -/
  taken : ∀ t i queueSize, s.pc t = .claim i queueSize → (s.queueHandle i).enabled = true →
    g.taken t = true

@[simp] theorem goto_queueHandle (s : CreateState) (t : ℕ) (pc : CreatePc) :
    (s.goto t pc).queueHandle = s.queueHandle := rfl

@[simp] theorem goto_pc_self (s : CreateState) (t : ℕ) (pc : CreatePc) : (s.goto t pc).pc t = pc :=
  Function.update_self _ _ _

theorem goto_pc_of_ne (s : CreateState) (pc : CreatePc) {t t' : ℕ} (ht : t' ≠ t) :
    (s.goto t pc).pc t' = s.pc t' := Function.update_of_ne ht _ _

theorem recordInv_init : RecordInv createInit recordInit where
  live _ := iff_of_false List.not_mem_nil Bool.false_ne_true
  nodup := List.nodup_nil
  passed _ _ _ hpc := nomatch hpc
  taken _ _ _ hpc := nomatch hpc

/-! ## What stays recorded -/

theorem inUse_tick (he : e.isCallOf t = false) (hu : g.inUse t i = true) :
    (recordTick g s e).inUse t i = true := by
  simp [recordTick, he, hu]

theorem taken_tick (he : e.isLookOf t = false) (ht : g.taken t = true) :
    (recordTick g s e).taken t = true := by
  simp [recordTick, he, ht]

/-- A step that leaves the table alone moves one thread. What is asked of it concerns this thread. -/
theorem RecordInv.goto (h : RecordInv s g) {pc : CreatePc} (hlive : (recordTick g s e).live = g.live)
    (hother : ∀ t' ≠ t, e.isCallOf t' = false ∧ e.isLookOf t' = false)
    (hpassed : ∀ k queueSize, pc = .scan k queueSize → ∀ i : Fin queueChnMax, 1 ≤ i.val →
      i.val < k → (recordTick g s e).inUse t i = true)
    (htaken : ∀ i queueSize, pc = .claim i queueSize → (s.queueHandle i).enabled = true →
      (recordTick g s e).taken t = true) :
    RecordInv (s.goto t pc) (recordTick g s e) where
  live i := by rw [hlive]; exact h.live i
  nodup := by rw [hlive]; exact h.nodup
  passed t' k queueSize hpc i hi hk := by
    by_cases ht : t' = t
    · subst ht
      rw [goto_pc_self] at hpc
      exact hpassed k queueSize hpc i hi hk
    · rw [goto_pc_of_ne s pc ht] at hpc
      exact inUse_tick (hother t' ht).1 (h.passed t' k queueSize hpc i hi hk)
  taken t' i queueSize hpc henabled := by
    by_cases ht : t' = t
    · subst ht
      rw [goto_pc_self] at hpc
      exact htaken i queueSize hpc henabled
    · rw [goto_pc_of_ne s pc ht] at hpc
      exact taken_tick (hother t' ht).2 (h.taken t' i queueSize hpc henabled)

/-- A step that ends a call without a queue. -/
theorem RecordInv.fail (h : RecordInv s g) (t : ℕ) (why : CreateFail) :
    RecordInv (s.goto t .idle) (recordTick g s (.fail t why)) :=
  h.goto rfl (fun _ _ => ⟨rfl, rfl⟩) (fun _ _ hpc => nomatch hpc) fun _ _ hpc => nomatch hpc

/-- Creating queue `i` puts its id among the live ones, where it was not. -/
theorem RecordInv.created (h : RecordInv s g) {queueSize : ℕ} {q : QueueHandle}
    (hpc : s.pc t = .claim i queueSize)
    (hclaim : claimQueue (s.queueHandle i) queueSize true = some q) :
    RecordInv { s.goto t .idle with queueHandle := Function.update s.queueHandle i q }
      (recordTick g s (.created t i)) := by
  have hunused : (s.queueHandle i).enabled = false := by
    by_contra hen
    rw [claimQueue, if_pos (by simpa using hen)] at hclaim
    cases hclaim
  have hq : q.enabled = true := by
    rw [claimQueue, if_neg (by simp [hunused]), if_pos rfl, Option.some.injEq] at hclaim
    rw [← hclaim]
    rfl
  have hother : ∀ {t' pc}, (s.goto t .idle).pc t' = pc → pc ≠ .idle → t' ≠ t ∧ s.pc t' = pc := by
    intro t' pc hpc' hne
    have ht : t' ≠ t := by
      rintro rfl
      rw [goto_pc_self] at hpc'
      exact hne hpc'.symm
    exact ⟨ht, (goto_pc_of_ne s _ ht).symm.trans hpc'⟩
  refine ⟨fun j => ?_, ?_, fun t' k queueSize' hpc' j hj hk => ?_, fun t' j queueSize' hpc' hen => ?_⟩
  · change j ∈ i :: g.live ↔ _
    rw [List.mem_cons, h.live]
    by_cases hj : j = i
    · subst hj
      simp only [true_or, Function.update_self, hq]
    · simp only [hj, false_or, Function.update_of_ne hj]
  · refine List.nodup_cons.2 ⟨fun hmem => ?_, h.nodup⟩
    rw [h.live, hunused] at hmem
    cases hmem
  · obtain ⟨-, hpc₀⟩ := hother hpc' (by simp)
    exact inUse_tick rfl (h.passed t' k queueSize' hpc₀ j hj hk)
  · obtain ⟨ht, hpc₀⟩ := hother hpc' (by simp)
    by_cases hj : j = i
    · subst hj
      simp [recordTick, CreateEvent.isLookOf, CreateEvent.takes, hpc₀, ht.symm]
    · simp only [Function.update_of_ne hj] at hen
      exact taken_tick rfl (h.taken t' j queueSize' hpc₀ hen)

theorem queueIndex_val (i : Fin queueChnMax) : queueIndex i.val = some i := by
  have hlt := i.isLt
  rw [queueIndex, dif_pos (by omega)]
  rfl

theorem disdroyQueue_used {queueHandle : QueueTable} (henabled : (queueHandle i).enabled = true) :
    disdroyQueue queueHandle i.val = .ok (keyTrue, Function.update queueHandle i unusedQueue) := by
  simp only [disdroyQueue, queueIndex_val, henabled, if_true]

/-- Destroying queue `i` takes its id back, or does nothing. -/
theorem RecordInv.disdroy (h : RecordInv s g) {r : ℤ} {queueHandle : QueueTable}
    (hcall : disdroyQueue s.queueHandle i.val = .ok (r, queueHandle)) :
    RecordInv { s with queueHandle := queueHandle } (recordTick g s (.disdroy i r)) := by
  have hindex := queueIndex_val i
  have hpassed : ∀ t k queueSize, s.pc t = .scan k queueSize → ∀ j : Fin queueChnMax, 1 ≤ j.val →
      j.val < k → (recordTick g s (.disdroy i r)).inUse t j = true := fun t k queueSize hpc j hj hk =>
    inUse_tick rfl (h.passed t k queueSize hpc j hj hk)
  simp only [disdroyQueue, hindex] at hcall
  split at hcall
  · next henabled =>
      cases hcall
      have hlive : (recordTick g s (.disdroy i keyTrue)).live = g.live.erase i := by
        simp [recordTick]
      refine ⟨fun j => ?_, ?_, hpassed, fun t j queueSize hpc hen => ?_⟩
      · rw [hlive, h.nodup.mem_erase_iff, h.live]
        by_cases hj : j = i
        · subst hj
          simp [unusedQueue]
        · simp only [hj, ne_eq, not_false_eq_true, true_and, Function.update_of_ne hj]
      · rw [hlive]
        exact h.nodup.erase i
      · have hj : j ≠ i := by
          rintro rfl
          simp [unusedQueue] at hen
        simp only [Function.update_of_ne hj] at hen
        exact taken_tick rfl (h.taken t j queueSize hpc hen)
  · cases hcall
    have hlive : (recordTick g s (.disdroy i keyFalse)).live = g.live := by
      simp [recordTick, keyTrue, keyFalse]
    refine ⟨fun j => ?_, ?_, hpassed, fun t j queueSize hpc hen => ?_⟩
    · rw [hlive]
      exact h.live j
    · rw [hlive]
      exact h.nodup
    · exact taken_tick rfl (h.taken t j queueSize hpc hen)

/-! ## Every interleaving -/

theorem recordInv_step (h : RecordInv s g)
    (hs : stepWith recordTick CreateStep (s, g) e (s', g')) : RecordInv s' g' := by
  obtain ⟨hstep, rfl⟩ := hs
  dsimp only at hstep
  cases hstep with
  | @call t queueSize hpc =>
      refine h.goto rfl (fun t' ht => ⟨?_, rfl⟩) (fun k _ hk i hi hlt => ?_) fun _ _ hk => nomatch hk
      · exact decide_eq_false ht.symm
      · cases hk
        omega
  | @used t queueSize i hpc henabled =>
      refine h.goto rfl (fun t' ht => ⟨rfl, decide_eq_false ht.symm⟩) (fun k _ hk j hj hlt => ?_)
        fun _ _ hk => nomatch hk
      cases hk
      rcases (Nat.lt_succ_iff.1 hlt).lt_or_eq with hlt' | heq
      · exact inUse_tick rfl (h.passed t i queueSize hpc j hj hlt')
      · obtain rfl : j = i := Fin.ext heq
        simp [recordTick, CreateEvent.isCallOf, henabled]
  | @free t queueSize i hpc hunused =>
      refine h.goto rfl (fun t' ht => ⟨rfl, decide_eq_false ht.symm⟩) (fun _ _ hk => nomatch hk)
        fun j _ hk henabled => ?_
      cases hk
      rw [hunused] at henabled
      cases henabled
  | exhausted hpc => exact h.fail _ _
  | created hpc hclaim => exact h.created hpc hclaim
  | lost hpc henabled => exact h.fail _ _
  | noMemory hpc hunused hclaim => exact h.fail _ _
  | disdroy hcall => exact h.disdroy hcall

/-- What has happened when `CreateQueue` returns `-1`; the record includes the instant before. -/
def FailReason (g' : CallRecord) (t : ℕ) : CreateFail → Prop
  | .exhausted => ∀ i : Fin queueChnMax, 1 ≤ i.val → g'.inUse t i = true
  | .lost => g'.taken t = true
  | .noMemory => True

/-- **Ids are given out once, and a call fails for one of three reasons.** In every interleaving, no
    two live queues have the same id; and when a call fails, every queue was in use at some instant of
    it, or another thread created the queue it had chosen, or `malloc` has refused the buffer. -/
theorem queue_ids {tr : List CreateEvent}
    (h : Run (stepWith recordTick CreateStep) (createInit, recordInit) tr (s, g)) :
    g.live.Nodup ∧ ∀ t why s' g', stepWith recordTick CreateStep (s, g) (.fail t why) (s', g') →
      FailReason g' t why := by
  have hinv : RecordInv s g := by
    refine h.stateInvariant (fun x => RecordInv x.1 x.2) recordInv_init fun x e y hx hs => ?_
    exact recordInv_step hx hs
  refine ⟨hinv.nodup, fun t why s' g' ⟨hstep, hg⟩ => ?_⟩
  dsimp only at hstep hg
  subst hg
  cases hstep with
  | @exhausted _ queueSize hpc =>
      intro i hi
      exact inUse_tick rfl (hinv.passed t queueChnMax queueSize hpc i hi i.isLt)
  | @lost _ queueSize i hpc henabled => exact taken_tick rfl (hinv.taken t i queueSize hpc henabled)
  | noMemory _ _ _ => trivial

/-- Threads 0 and 1 choose queue 1 together, thread 2 gets queue 2: both are in use, and thread 1 is
    told that it comes too late. -/
theorem queue_ids_three : ∃ tr s g s' g',
    Run (stepWith recordTick CreateStep) (createInit, recordInit) tr (s, g) ∧ g.live = [2, 1] ∧
      g.live.Nodup ∧ stepWith recordTick CreateStep (s, g) (.fail 1 .lost) (s', g') ∧
      FailReason g' 1 .lost := by
  have hchosen : Run (stepWith recordTick CreateStep) (createInit, recordInit)
      [.call 0 1024, .call 1 1024, .look 0, .look 1] (_, _) :=
    (((Run.nil.snoc (stepWith_intro _ (.call rfl))).snoc (stepWith_intro _ (.call rfl))).snoc
      (stepWith_intro _ (.free (i := 1) rfl rfl))).snoc (stepWith_intro _ (.free (i := 1) rfl rfl))
  have hrun : Run (stepWith recordTick CreateStep) (createInit, recordInit)
      [.call 0 1024, .call 1 1024, .look 0, .look 1, .created 0 1, .call 2 512, .look 2, .look 2,
        .created 2 2] (_, _) :=
    ((((hchosen.snoc (stepWith_intro _ (.created rfl rfl))).snoc
      (stepWith_intro _ (.call rfl))).snoc (stepWith_intro _ (.used (i := 1) rfl rfl))).snoc
      (stepWith_intro _ (.free (i := 2) rfl rfl))).snoc (stepWith_intro _ (.created rfl rfl))
  obtain ⟨hnodup, hreason⟩ := queue_ids hrun
  exact ⟨_, _, _, _, _, hrun, rfl, hnodup, stepWith_intro _ (.lost rfl rfl),
    hreason 1 .lost _ _ (stepWith_intro _ (.lost rfl rfl))⟩

/-! ## A call that is alone -/

@[simp] theorem goto_goto (s : CreateState) (t : ℕ) (pc pc' : CreatePc) :
    (s.goto t pc).goto t pc' = s.goto t pc' := by
  simp only [CreateState.goto, Function.update_idem]

theorem goto_idle (hpc : s.pc t = .idle) : s.goto t .idle = s := by
  rw [CreateState.goto, ← hpc, Function.update_eq_self]

theorem allInUse_tick (hall : g.allInUse t = false) (hfree : allUsed s.queueHandle = false) :
    (recordTick g s e).allInUse t = false := by
  simp [recordTick, hall, hfree]

/-- Past queues that are in use, from one to the next. What all of them were at once is not seen
    meanwhile when it is not so now. -/
theorem scan_run (g : CallRecord) (queueSize : ℕ) {k : ℕ} (hone : 1 ≤ k) (hk : k ≤ queueChnMax)
    (hused : ∀ j : Fin queueChnMax, 1 ≤ j.val → j.val < k → (s.queueHandle j).enabled = true) :
    ∃ tr g', Run (stepWith recordTick CreateStep) (s.goto t (.scan 1 queueSize), g) tr
      (s.goto t (.scan k queueSize), g') ∧
      (g.allInUse t = false → allUsed s.queueHandle = false → g'.allInUse t = false) := by
  induction k, hone using Nat.le_induction with
  | base => exact ⟨[], g, .nil, fun hall _ => hall⟩
  | succ k hone ih =>
      obtain ⟨tr, g', hrun, hkept⟩ := ih (by omega) fun j hj hlt => hused j hj (by omega)
      have hstep := CreateStep.used (i := ⟨k, hk⟩) (goto_pc_self s t (.scan k queueSize))
        (hused ⟨k, hk⟩ hone (Nat.lt_succ_self k))
      rw [goto_goto] at hstep
      exact ⟨_, _, hrun.snoc (stepWith_intro g' hstep),
        fun hall hfree => allInUse_tick (hkept hall hfree) hfree⟩

/-- What `GetQueueID` returns is the first queue that is not in use. -/
theorem getQueueID_first {queueHandle : QueueTable} (hget : getQueueID queueHandle = some i) :
    1 ≤ i.val ∧ ∀ j : Fin queueChnMax, 1 ≤ j.val → j.val < i.val →
      (queueHandle j).enabled = true := by
  obtain ⟨hi, k, hk, hik, hbefore⟩ := List.find?_eq_some_iff_getElem.1 hget
  simp only [Bool.and_eq_true, decide_eq_true_iff] at hi
  refine ⟨hi.1, fun j hj hlt => ?_⟩
  simp only [List.getElem_finRange] at hik hbefore
  have hjk : j.val < k := by
    rw [← hik] at hlt
    exact hlt
  have hnot := hbefore j.val hjk
  simpa [hj] using hnot

theorem getQueueID_none {queueHandle : QueueTable} (hget : getQueueID queueHandle = none)
    (hj : 1 ≤ i.val) : (queueHandle i).enabled = true := by
  have hnot := List.find?_eq_none.1 hget i (List.mem_finRange i)
  simpa [hj] using hnot

/-- **A call that no other thread interrupts is `CreateQueue` on the table.** -/
theorem create_alone (hpc : s.pc t = .idle) (queueSize : ℕ) (mem : Bool) :
    ∃ tr, Run CreateStep s tr
      { s with queueHandle := (createQueueIn s.queueHandle queueSize mem).2 } := by
  have hcall : Run CreateStep s [.call t queueSize] (s.goto t (.scan 1 queueSize)) :=
    Run.nil.snoc (.call hpc)
  unfold createQueueIn
  cases hget : getQueueID s.queueHandle with
  | none =>
      obtain ⟨tr, g', hrun, -⟩ := scan_run (t := t) recordInit queueSize (k := queueChnMax) (by decide)
        le_rfl fun j hj _ => getQueueID_none hget hj
      have hscan := (run_stepWith_iff _ _).2 ⟨g', hrun⟩
      have hfail := CreateStep.exhausted (goto_pc_self s t (.scan queueChnMax queueSize))
      rw [goto_goto, goto_idle hpc] at hfail
      exact ⟨_, (hcall.append hscan).snoc hfail⟩
  | some i =>
      obtain ⟨hone, hbefore⟩ := getQueueID_first hget
      have hunused := getQueueID_unused hget
      obtain ⟨tr, g', hrun, -⟩ := scan_run (t := t) recordInit queueSize hone i.isLt.le hbefore
      have hscan := (run_stepWith_iff _ _).2 ⟨g', hrun⟩
      have hfree := CreateStep.free (goto_pc_self s t (.scan i queueSize)) hunused
      rw [goto_goto] at hfree
      have hclaim := goto_pc_self s t (.claim i queueSize)
      cases mem with
      | true =>
          have hdone := CreateStep.created hclaim
            (show claimQueue (s.queueHandle i) queueSize true = some (createQueue queueSize) by
              simp [claimQueue, hunused])
          rw [goto_goto, goto_idle hpc] at hdone
          simp only [claimQueue, hunused]
          exact ⟨_, ((hcall.append hscan).snoc hfree).snoc hdone⟩
      | false =>
          have hdone := CreateStep.noMemory hclaim hunused (by simp [claimQueue])
          rw [goto_goto, goto_idle hpc] at hdone
          simp only [claimQueue, hunused]
          exact ⟨_, ((hcall.append hscan).snoc hfree).snoc hdone⟩

/-! ## Failing though queues are free -/

/-- Queues 1 to `k` have been created. -/
def fullTable (k : ℕ) : QueueTable := fun i =>
  if 1 ≤ i.val ∧ i.val ≤ k then createQueue 1024 else unusedQueue

theorem fullTable_used {k : ℕ} (hone : 1 ≤ i.val) (hk : i.val ≤ k) :
    (fullTable k i).enabled = true := by
  rw [fullTable, if_pos ⟨hone, hk⟩]
  rfl

theorem fullTable_free {k : ℕ} (hk : k < i.val) : fullTable k i = unusedQueue :=
  if_neg fun h => absurd h.2 (Nat.not_le_of_lt hk)

theorem getQueueID_fullTable {k : ℕ} (hk : k + 1 < queueChnMax) :
    getQueueID (fullTable k) = some ⟨k + 1, hk⟩ := by
  have hfree : (fullTable k ⟨k + 1, hk⟩).enabled = false := by
    rw [fullTable_free (Nat.lt_succ_self k)]
    rfl
  cases hget : getQueueID (fullTable k) with
  | none => cases hfree.symm.trans (getQueueID_none hget (Nat.le_add_left 1 k))
  | some i =>
      obtain ⟨hone, hbefore⟩ := getQueueID_first hget
      have hunused := getQueueID_unused hget
      rcases Nat.lt_trichotomy i.val (k + 1) with hlt | heq | hgt
      · cases (fullTable_used hone (Nat.lt_succ_iff.1 hlt)).symm.trans hunused
      · exact congrArg some (Fin.ext heq)
      · cases (hbefore ⟨k + 1, hk⟩ (Nat.le_add_left 1 k) hgt).symm.trans hfree

theorem createQueueIn_fullTable {k : ℕ} (hk : k + 1 < queueChnMax) :
    (createQueueIn (fullTable k) 1024 true).2 = fullTable (k + 1) := by
  rw [createQueueIn, getQueueID_fullTable hk]
  dsimp only
  rw [fullTable_free (Nat.lt_succ_self k)]
  funext i
  change Function.update (fullTable k) _ (createQueue 1024) i = _
  by_cases hi : i = ⟨k + 1, hk⟩
  · subst hi
    rw [Function.update_self, fullTable, if_pos ⟨Nat.le_add_left 1 k, le_rfl⟩]
  · have hne : i.val ≠ k + 1 := fun h => hi (Fin.ext h)
    have hiff : (1 ≤ i.val ∧ i.val ≤ k) ↔ (1 ≤ i.val ∧ i.val ≤ k + 1) := by omega
    rw [Function.update_of_ne hi, fullTable, fullTable, if_congr hiff rfl rfl]

/-- One call after the other. -/
theorem run_fullTable {k : ℕ} (hk : k < queueChnMax) :
    ∃ tr, Run CreateStep createInit tr ⟨fullTable k, fun _ => .idle⟩ := by
  induction k with
  | zero =>
      have hempty : fullTable 0 = fun _ => unusedQueue := by
        funext i
        exact if_neg fun h => absurd (h.1.trans h.2) (by decide)
      rw [hempty]
      exact ⟨[], .nil⟩
  | succ k ih =>
      obtain ⟨tr, hrun⟩ := ih (by omega)
      obtain ⟨tr', hcall⟩ := create_alone (s := ⟨fullTable k, fun _ => .idle⟩) (t := 0) rfl 1024 true
      rw [createQueueIn_fullTable hk] at hcall
      exact ⟨_, hrun.append hcall⟩

theorem allUsed_eq_false {queueHandle : QueueTable} (hone : 1 ≤ i.val)
    (hfree : (queueHandle i).enabled = false) : allUsed queueHandle = false := by
  rw [allUsed, List.all_eq_false]
  refine ⟨i, List.mem_finRange i, ?_⟩
  have hne : i.val ≠ 0 := by omega
  simp [hne, hfree]

/-- A call of thread 1 fails for this reason, and at no instant of it were all queues in use. -/
def FailsWithFree (why : CreateFail) : Prop := ∃ tr s g s' g',
  Run (stepWith recordTick CreateStep) (createInit, recordInit) tr (s, g) ∧
    stepWith recordTick CreateStep (s, g) (.fail 1 why) (s', g') ∧ g'.allInUse 1 = false

/-- Two calls choose queue 1; for the one that comes too late 199 queues are free. -/
theorem lost_with_free : FailsWithFree .lost := by
  have hrun : Run (stepWith recordTick CreateStep) (createInit, recordInit)
      [.call 0 1024, .call 1 1024, .look 0, .look 1, .created 0 1] (_, _) :=
    ((((Run.nil.snoc (stepWith_intro _ (.call rfl))).snoc (stepWith_intro _ (.call rfl))).snoc
      (stepWith_intro _ (.free (i := 1) rfl rfl))).snoc
      (stepWith_intro _ (.free (i := 1) rfl rfl))).snoc (stepWith_intro _ (.created rfl rfl))
  exact ⟨_, _, _, _, _, hrun, stepWith_intro _ (.lost rfl rfl), rfl⟩

theorem noMemory_with_free : FailsWithFree .noMemory := by
  have hrun : Run (stepWith recordTick CreateStep) (createInit, recordInit)
      [.call 1 1024, .look 1] (_, _) :=
    (Run.nil.snoc (stepWith_intro _ (.call rfl))).snoc (stepWith_intro _ (.free (i := 1) rfl rfl))
  exact ⟨_, _, _, _, _, hrun, stepWith_intro _ (.noMemory (i := 1) rfl rfl rfl), rfl⟩

/-- Queue 200 alone is free and thread 0 has chosen it; thread 1 has looked at the others. -/
theorem passed_with_free : ∃ tr s g,
    Run (stepWith recordTick CreateStep) (createInit, recordInit) tr (s, g) ∧
      s.pc 0 = .claim 200 1024 ∧ s.pc 1 = .scan 200 1024 ∧ (s.queueHandle 1).enabled = true ∧
      (s.queueHandle 200).enabled = false ∧ g.allInUse 1 = false := by
  obtain ⟨tr₀, hfill⟩ := run_fullTable (k := 199) (by decide)
  obtain ⟨g₀, hrun₀⟩ := (run_stepWith_iff recordTick recordInit).1 hfill
  generalize hs : (⟨fullTable 199, fun _ => .idle⟩ : CreateState) = s at hrun₀
  have htable : s.queueHandle = fullTable 199 := by rw [← hs]
  have hused : ∀ j : Fin queueChnMax, 1 ≤ j.val → j.val < 200 →
      (s.queueHandle j).enabled = true := fun j hj hlt => by
    rw [htable]
    exact fullTable_used hj (Nat.lt_succ_iff.1 hlt)
  have hfree : (s.queueHandle 200).enabled = false := by
    rw [htable, fullTable_free (by decide)]
    rfl
  -- thread 0 chooses queue 200
  have hcall : stepWith recordTick CreateStep (s, g₀) (.call 0 1024)
      (s.goto 0 (.scan 1 1024), recordTick g₀ s (.call 0 1024)) :=
    stepWith_intro g₀ (.call (by rw [← hs]))
  obtain ⟨tr₁, g₁, hscan₀, -⟩ := scan_run (s := s) (t := 0) (recordTick g₀ s (.call 0 1024)) 1024
    (k := 200) (by decide) (by decide) hused
  have hchosen := CreateStep.free (i := 200) (goto_pc_self s 0 (.scan 200 1024)) hfree
  rw [goto_goto] at hchosen
  -- thread 1 starts behind it
  have hidle : (s.goto 0 (.claim 200 1024)).pc 1 = .idle := by
    rw [goto_pc_of_ne s _ one_ne_zero, ← hs]
  obtain ⟨tr₂, g₂, hscan₁, hkept⟩ := scan_run (s := s.goto 0 (.claim 200 1024)) (t := 1)
    (recordTick (recordTick g₁ (s.goto 0 (.scan 200 1024)) (.look 0)) (s.goto 0 (.claim 200 1024))
      (.call 1 1024)) 1024 (k := 200) (by decide) (by decide) hused
  have hrun := (((hrun₀.snoc hcall).append hscan₀).snoc (stepWith_intro g₁ hchosen)).snoc
    (stepWith_intro _ (@CreateStep.call _ 1 1024 hidle))
  exact ⟨_, _, _, hrun.append hscan₁, rfl, rfl, hused 1 (by decide) (by decide), hfree,
    hkept rfl (allUsed_eq_false (i := 200) (by decide) hfree)⟩

/-- Then queue 1 is destroyed and queue 200 created, and thread 1 finds nothing. -/
theorem exhausted_with_free : FailsWithFree .exhausted := by
  obtain ⟨tr, s, g, hrun, hpc₀, hpc₁, hused, hfree, hall⟩ := passed_with_free
  have hdisdroy := CreateStep.disdroy (i := 1) (disdroyQueue_used hused)
  generalize hs₁ : ({ s with queueHandle := Function.update s.queueHandle 1 unusedQueue } :
    CreateState) = s₁ at hdisdroy
  have hone : (s₁.queueHandle 1).enabled = false := by rw [← hs₁]; rfl
  have hlast : (s₁.queueHandle 200).enabled = false := by rw [← hs₁]; exact hfree
  have hcreated := @CreateStep.created s₁ 0 1024 200 _ (by rw [← hs₁]; exact hpc₀)
    (show claimQueue _ 1024 true = some (createQueue 1024) by simp [claimQueue, hlast])
  generalize hs₂ : ({ s₁.goto 0 .idle with
    queueHandle := Function.update s₁.queueHandle 200 (createQueue 1024) } : CreateState) = s₂
    at hcreated
  have hone' : (s₂.queueHandle 1).enabled = false := by rw [← hs₂]; exact hone
  have hlook := @CreateStep.used s₂ 1 1024 200 (by rw [← hs₂, ← hs₁]; exact hpc₁)
    (by rw [← hs₂]; rfl)
  have hfail := CreateStep.exhausted (goto_pc_self s₂ 1 (.scan 201 1024))
  -- before each of these steps queue 200 or queue 1 is free
  have hall₁ := allInUse_tick (e := .disdroy 1 keyTrue) hall
    (allUsed_eq_false (i := 200) (by decide) hfree)
  have hall₂ := allInUse_tick (e := .created 0 200) hall₁
    (allUsed_eq_false (i := 200) (by decide) hlast)
  have hall₃ := allInUse_tick (e := .look 1) hall₂ (allUsed_eq_false (i := 1) le_rfl hone')
  have hall₄ := allInUse_tick (e := .fail 1 .exhausted) hall₃
    (@allUsed_eq_false 1 (s₂.goto 1 (.scan 201 1024)).queueHandle le_rfl hone')
  exact ⟨_, _, _, _, _, ((hrun.snoc (stepWith_intro _ hdisdroy)).snoc (stepWith_intro _ hcreated)).snoc
    (stepWith_intro _ hlook), stepWith_intro _ hfail, hall₄⟩

/-- **In each of the three places a call can fail without all queues being in use at once.** -/
theorem create_fails_with_free_queues :
    FailsWithFree .exhausted ∧ FailsWithFree .lost ∧ FailsWithFree .noMemory :=
  ⟨exhausted_with_free, lost_with_free, noMemory_with_free⟩

end SmartPlat.MediaQueue
