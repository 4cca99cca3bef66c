import SmartPlat.AlarmManage.Basic

set_option autoImplicit false

/-! # Alarms are dispatched once

The queue holds the last alarms accepted, in order, so an alarm that is gone was once its head. What
goes wrong is that the thread keeps a pointer to the head between its critical sections. The invariant
says where that pointer leads as long as no producer frees the record in dispatch and no record is
given its address. -/

namespace SmartPlat.AlarmManage

open SmartPlat.Lib

variable {s s' : AlarmState} {e : AlarmEvent} {msg : AlarmMsg} {info : AlarmInfo} {addr : ℕ}

/-- An `AlarmMsgInput` that leaves the dispatch alone: there is room for its alarm, or no record is in
    dispatch, and `malloc` does not give it the address the thread has a pointer to. -/
def Undisturbed (s : AlarmState) : AlarmEvent → Prop
  | .input _ addr => (s.msgnum ≤ maxPushmsgNum ∨ s.proc.current = none) ∧
      ∀ msg, s.proc.held = some msg → msg.addr ≠ addr
  | _ => True

/-! ## The queue -/

/-- The queue holds what was accepted after the first `gone` alarms, in distinct records. -/
structure QueueOk (list : List AlarmMsg) (num : ℤ) (gone : ℕ) (accepted : List AlarmInfo) :
    Prop where
  msgnum : num = list.length
  addrs : (list.map AlarmMsg.addr).Nodup
  serials : list.map AlarmMsg.serial = List.range' gone list.length
  length : gone + list.length = accepted.length
  infos : ∀ msg ∈ list, accepted[msg.serial]? = some msg.info

section

variable {list : List AlarmMsg} {num : ℤ} {gone : ℕ} {accepted : List AlarmInfo}

theorem QueueOk.mem_serials (h : QueueOk list num gone accepted) {n : ℕ} :
    n ∈ list.map AlarmMsg.serial ↔ gone ≤ n ∧ n < accepted.length := by
  rw [h.serials, List.mem_range'_1, h.length]

/-- The record at the head is the oldest that has not left the queue. -/
theorem QueueOk.head (h : QueueOk list num gone accepted) (hmsg : list.head? = some msg) :
    msg.serial = gone ∧ lookup AlarmMsg.addr msg.addr list = some msg ∧
      list = msg :: eraseFirst AlarmMsg.addr msg.addr list := by
  obtain ⟨rest, rfl⟩ := List.head?_eq_some_iff.1 hmsg
  have hserials := h.serials
  rw [List.map_cons, List.length_cons, List.range'_succ, List.cons.injEq] at hserials
  refine ⟨hserials.1, ?_, ?_⟩
  · rw [lookup_cons, if_pos rfl]
  · rw [eraseFirst, List.eraseP_cons_of_pos (by simp)]

theorem QueueOk.tail (h : QueueOk list num gone accepted) (hmsg : list.head? = some msg) :
    QueueOk (eraseFirst AlarmMsg.addr msg.addr list) (num - 1) (gone + 1) accepted ∧
      msg.addr ∉ (eraseFirst AlarmMsg.addr msg.addr list).map AlarmMsg.addr := by
  obtain ⟨-, -, hlist⟩ := h.head hmsg
  generalize eraseFirst AlarmMsg.addr msg.addr list = rest at hlist
  subst hlist
  obtain ⟨hnum, haddrs, hserials, hlength, hinfos⟩ := h
  rw [List.map_cons, List.nodup_cons] at haddrs
  rw [List.map_cons, List.length_cons, List.range'_succ, List.cons.injEq] at hserials
  rw [List.length_cons] at hnum hlength
  refine ⟨⟨by omega, haddrs.2, hserials.2, by omega, fun m hm => ?_⟩, haddrs.1⟩
  exact hinfos m (List.mem_cons_of_mem _ hm)

theorem QueueOk.append (h : QueueOk list num gone accepted)
    (hfresh : addr ∉ list.map AlarmMsg.addr) :
    QueueOk (list ++ [⟨addr, accepted.length, info⟩]) (num + 1) gone (accepted ++ [info]) := by
  obtain ⟨hnum, haddrs, hserials, hlength, hinfos⟩ := h
  constructor
  · rw [List.length_append, List.length_singleton, hnum]
    rfl
  · rw [List.map_append, List.nodup_append]
    refine ⟨haddrs, List.nodup_singleton _, ?_⟩
    simp only [List.map_cons, List.map_nil, List.mem_singleton]
    rintro a ha _ rfl rfl
    exact hfresh ha
  · rw [List.map_append, hserials, List.length_append, List.length_singleton, List.range'_concat,
      List.map_cons, List.map_nil, Nat.one_mul, hlength]
  · rw [List.length_append, List.length_append, List.length_singleton, List.length_singleton,
      ← Nat.add_assoc, hlength]
  · intro m hm
    rcases List.mem_append.1 hm with hm | hm
    · exact List.getElem?_append_left (List.getElem?_eq_some_iff.1 (hinfos m hm)).1 ▸ hinfos m hm
    · obtain rfl := List.mem_singleton.1 hm
      exact List.getElem?_concat_length

end

/-! ## The invariant -/

/-- How many alarms have left the queue. -/
def AlarmState.gone (s : AlarmState) : ℕ := s.evicted.length + s.deleted.length

/-- Only alarms that have left the queue have been dispatched, apart from the one in dispatch. -/
def DispatchedBefore (s : AlarmState) (current : Option ℕ) : Prop :=
  ∀ n ∈ s.dispatched, n < s.gone ∨ some n = current

/-- What the thread knows of the record it has a pointer to. Once its callbacks have run the record
    may be gone, but then nothing is at its address. -/
def ProcPc.Ok (s : AlarmState) : ProcPc → Prop
  | .idle => DispatchedBefore s none
  | .out msg => s.headlist.head? = some msg ∧ DispatchedBefore s none
  | .posting msg left => msg.serial ∈ s.dispatched ∧
      (s.headlist.head? = some msg ∧ DispatchedBefore s (some msg.serial) ∨
        left = 0 ∧ msg.addr ∉ s.headlist.map AlarmMsg.addr ∧ DispatchedBefore s none)

structure AlarmInv (s : AlarmState) : Prop where
  queue : QueueOk s.headlist s.msgnum s.gone s.accepted
  once : s.dispatched.Nodup
  past : ∀ n < s.gone, n ∈ s.dispatched ∨ n ∈ s.evicted.map Prod.fst
  oldest : ∀ e ∈ s.evicted, maxPushmsgNum < (e.2.length : ℤ) ∧ ∀ n ∈ e.2, e.1 ≤ n
  faithful : ∀ c ∈ s.calls, c.1 < s.accepted.length ∧ c.2 = s.accepted[c.1]?
  removed : ∀ d ∈ s.deleted, d.1 = d.2
  proc : s.proc.Ok s

theorem AlarmInv.init : AlarmInv .init where
  queue := ⟨rfl, List.nodup_nil, rfl, rfl, by simp [AlarmState.init]⟩
  once := List.nodup_nil
  past := by simp [AlarmState.init, AlarmState.gone]
  oldest := by simp [AlarmState.init]
  faithful := by simp [AlarmState.init]
  removed := by simp [AlarmState.init]
  proc := by simp [AlarmState.init, ProcPc.Ok, DispatchedBefore]

/-- The record in dispatch is the head of the queue. -/
theorem AlarmInv.current (h : AlarmInv s) (hmsg : s.proc.current = some msg) :
    s.headlist.head? = some msg := by
  have hproc := h.proc
  cases hpc : s.proc with
  | idle => simp [hpc, ProcPc.current] at hmsg
  | out m =>
      rw [hpc] at hmsg hproc
      obtain rfl := Option.some.inj hmsg
      exact hproc.1
  | posting m left =>
      cases left with
      | zero => simp [hpc, ProcPc.current] at hmsg
      | succ left =>
          rw [hpc] at hmsg hproc
          obtain rfl := Option.some.inj hmsg
          exact (hproc.2.resolve_right fun h => Nat.succ_ne_zero left h.1).1

theorem AlarmInv.exactlyOnce (h : AlarmInv s) : s.ExactlyOnce where
  once := h.once
  accounted n hn := by
    by_cases hgone : n < s.gone
    · rcases h.past n hgone with hd | he
      · exact .inr (.inl hd)
      · by_cases hd : n ∈ s.dispatched
        · exact .inr (.inl hd)
        · exact .inr (.inr ⟨he, hd⟩)
    · exact .inl (h.queue.mem_serials.2 ⟨Nat.le_of_not_lt hgone, hn⟩)
  oldest := h.oldest
  allocated _ hmsg := List.mem_of_mem_head? (h.current hmsg)
  faithful := h.faithful
  removed := h.removed

/-! ## Steps -/

/-- `AlarmMsgInput` makes room while no record is in dispatch. -/
theorem AlarmInv.makeRoom (h : AlarmInv s) (hs : s.makeRoom = some s')
    (hroom : s.msgnum ≤ maxPushmsgNum ∨ s.proc.current = none) :
    AlarmInv s' ∧ s'.proc = s.proc ∧ s'.accepted = s.accepted := by
  unfold AlarmState.makeRoom at hs
  split at hs
  · next hfull =>
      obtain ⟨msg, hmsg, rfl⟩ := Option.map_eq_some_iff.1 hs
      obtain ⟨hserial, -, -⟩ := h.queue.head hmsg
      obtain ⟨htail, hfresh⟩ := h.queue.tail hmsg
      refine ⟨?_, rfl, rfl⟩
      -- the state after it, with one more alarm gone
      generalize hs' : (AlarmState.mk _ _ _ _ _ _ _ _) = s₁
      have hgone : s₁.gone = s.gone + 1 := by
        subst hs'
        simp only [AlarmState.gone, List.length_append, List.length_singleton]
        omega
      have hevicted : s₁.evicted.map Prod.fst = s.evicted.map Prod.fst ++ [s.gone] := by
        subst hs'
        rw [List.map_append, List.map_singleton, hserial]
      have hdispatched : s₁.dispatched = s.dispatched := by rw [← hs']
      have hbefore : ∀ c, (c = none ∨ c = some msg.serial) → DispatchedBefore s c →
          DispatchedBefore s₁ none := by
        intro c hc hd n hn
        rw [hdispatched] at hn
        rw [hgone]
        left
        rcases hd n hn with hlt | hcur
        · omega
        · rcases hc with rfl | rfl
          · cases hcur
          · cases hcur
            omega
      constructor
      · rw [hgone]
        subst hs'
        exact htail
      · rw [hdispatched]
        exact h.once
      · intro n hn
        rw [hgone] at hn
        rw [hdispatched, hevicted, List.mem_append, List.mem_singleton]
        by_cases hlt : n < s.gone
        · exact (h.past n hlt).imp_right .inl
        · exact .inr (.inr (by omega))
      · subst hs'
        intro e he
        rcases List.mem_append.1 he with he | he
        · exact h.oldest e he
        · obtain rfl := List.mem_singleton.1 he
          rw [List.length_map, ← h.queue.msgnum]
          refine ⟨hfull, fun n hn => ?_⟩
          rw [hserial]
          exact (h.queue.mem_serials.1 hn).1
      · subst hs'
        exact h.faithful
      · subst hs'
        exact h.removed
      · have hcurrent := hroom.resolve_left (by omega)
        have hproc := h.proc
        rw [show s₁.proc = s.proc by rw [← hs']]
        cases hpc : s.proc with
        | idle =>
            rw [hpc] at hproc
            exact hbefore none (.inl rfl) hproc
        | out m => simp [hpc, ProcPc.current] at hcurrent
        | posting m left =>
            cases left with
            | succ left => simp [hpc, ProcPc.current] at hcurrent
            | zero =>
                -- its callbacks have run, so it may be the one that is dropped
                rw [hpc] at hproc
                refine ⟨hdispatched ▸ hproc.1, .inr ⟨rfl, ?_, ?_⟩⟩
                · rw [show s₁.headlist = eraseFirst AlarmMsg.addr msg.addr s.headlist by rw [← hs']]
                  rcases hproc.2 with ⟨hhead, -⟩ | ⟨-, haddr, -⟩
                  · obtain rfl := Option.some.inj (hmsg.symm.trans hhead)
                    exact hfresh
                  · exact fun hmem => haddr ((eraseFirst_sublist.map _).subset hmem)
                · rcases hproc.2 with ⟨hhead, hlt⟩ | ⟨-, -, hlt⟩
                  · obtain rfl := Option.some.inj (hmsg.symm.trans hhead)
                    exact hbefore _ (.inr rfl) hlt
                  · exact hbefore none (.inl rfl) hlt
  · obtain rfl := Option.some.inj hs
    exact ⟨h, rfl, rfl⟩

theorem AlarmInv.append (h : AlarmInv s) (hfresh : addr ∉ s.headlist.map AlarmMsg.addr)
    (hheld : ∀ msg, s.proc.held = some msg → msg.addr ≠ addr) : AlarmInv (s.append info addr) where
  queue := h.queue.append hfresh
  once := h.once
  past := h.past
  oldest := h.oldest
  faithful c hc := by
    obtain ⟨hlt, hread⟩ := h.faithful c hc
    refine ⟨?_, ?_⟩
    · rw [AlarmState.append, List.length_append]
      omega
    · rw [hread]
      exact (List.getElem?_append_left hlt).symm
  removed := h.removed
  proc := by
    have hproc := h.proc
    have hhead : ∀ m, s.headlist.head? = some m → (s.append info addr).headlist.head? = some m := by
      intro m hm
      obtain ⟨rest, hlist⟩ := List.head?_eq_some_iff.1 hm
      rw [AlarmState.append, hlist]
      rfl
    rw [show (s.append info addr).proc = s.proc from rfl]
    cases hpc : s.proc with
    | idle =>
        rw [hpc] at hproc
        exact hproc
    | out m =>
        rw [hpc] at hproc
        exact ⟨hhead m hproc.1, hproc.2⟩
    | posting m left =>
        rw [hpc] at hproc
        refine ⟨hproc.1, ?_⟩
        rcases hproc.2 with ⟨hm, hd⟩ | ⟨h0, haddr, hd⟩
        · exact .inl ⟨hhead m hm, hd⟩
        · refine .inr ⟨h0, ?_, hd⟩
          rw [AlarmState.append, List.map_append, List.mem_append, List.map_singleton,
            List.mem_singleton]
          exact fun hmem => hmem.elim haddr (hheld m (by rw [hpc]; rfl))

theorem AlarmInv.input (h : AlarmInv s) (hu : Undisturbed s (.input info addr))
    (hs : alarmStep s (.input info addr) = some s') : AlarmInv s' := by
  obtain ⟨hroom, hheld⟩ := hu
  obtain ⟨⟨code, s₂⟩, hin, rfl⟩ := Option.map_eq_some_iff.1 hs
  unfold alarmMsgInput at hin
  split at hin
  · cases hin
    exact h
  · next s₁ hs₁ =>
      obtain ⟨h₁, hproc, -⟩ := h.makeRoom hs₁ hroom
      split at hin
      · cases hin
      · next hfresh =>
          cases hin
          exact h₁.append hfresh (by rwa [hproc])

theorem AlarmInv.msgOut (h : AlarmInv s) (hs : alarmStep s .msgOut = some s') : AlarmInv s' := by
  have hproc := h.proc
  simp only [alarmStep] at hs
  split at hs
  · next hpc =>
      rw [hpc] at hproc
      split at hs
      · obtain rfl := Option.some.inj hs
        exact h
      · next msg hmsg =>
          obtain rfl := Option.some.inj hs
          exact { h with proc := ⟨hmsg, hproc⟩ }
  · cases hs

theorem AlarmInv.postLoop {count : ℕ} (h : AlarmInv s) (hs : alarmStep s (.postLoop count) = some s') :
    AlarmInv s' := by
  have hproc := h.proc
  simp only [alarmStep] at hs
  split at hs
  · next msg hpc =>
      rw [hpc] at hproc
      obtain rfl := Option.some.inj hs
      obtain ⟨hhead, hbefore⟩ := hproc
      obtain ⟨hserial, -, -⟩ := h.queue.head hhead
      have hnew : msg.serial ∉ s.dispatched := by
        intro hmem
        rcases hbefore _ hmem with hlt | hnone
        · omega
        · cases hnone
      refine { h with once := ?_, past := ?_, proc := ?_ }
      · rw [List.nodup_append]
        refine ⟨h.once, List.nodup_singleton _, ?_⟩
        simp only [List.mem_singleton]
        rintro a ha _ rfl rfl
        exact hnew ha
      · intro n hn
        exact (h.past n hn).imp_left (List.mem_append_left _)
      · refine ⟨List.mem_append_right _ (List.mem_singleton_self _), .inl ⟨hhead, fun n hn => ?_⟩⟩
        rcases List.mem_append.1 hn with hn | hn
        · exact (hbefore n hn).imp_right fun h => absurd h (by simp)
        · exact .inr (congrArg some (List.mem_singleton.1 hn))
  · cases hs

theorem AlarmInv.callback (h : AlarmInv s) (hs : alarmStep s .callback = some s') : AlarmInv s' := by
  have hproc := h.proc
  simp only [alarmStep] at hs
  split at hs
  · next msg left hpc =>
      rw [hpc] at hproc
      obtain rfl := Option.some.inj hs
      have hhead : s.headlist.head? = some msg := h.current (by rw [hpc]; rfl)
      obtain ⟨-, hlookup, hlist⟩ := h.queue.head hhead
      have hinfo := h.queue.infos msg (List.mem_of_mem_head? hhead)
      refine { h with faithful := ?_, proc := ?_ }
      · intro c hc
        rcases List.mem_append.1 hc with hc | hc
        · exact h.faithful c hc
        · obtain rfl := List.mem_singleton.1 hc
          rw [hlookup]
          exact ⟨(List.getElem?_eq_some_iff.1 hinfo).1, hinfo.symm⟩
      · exact ⟨hproc.1, hproc.2.imp_right fun h => absurd h.1 (Nat.succ_ne_zero left)⟩
  · cases hs

theorem AlarmInv.msgDel (h : AlarmInv s) (hs : alarmStep s .msgDel = some s') : AlarmInv s' := by
  have hproc := h.proc
  simp only [alarmStep] at hs
  split at hs
  · next msg hpc =>
      rw [hpc] at hproc
      obtain rfl := Option.some.inj hs
      obtain ⟨hdispatched, ⟨hhead, hbefore⟩ | ⟨-, haddr, hbefore⟩⟩ := hproc
      · obtain ⟨hserial, hlookup, -⟩ := h.queue.head hhead
        rw [alarmMsgDel, hlookup]
        have hgone : ∀ n, n < s.evicted.length + (s.deleted ++ [(msg.serial, msg.serial)]).length ↔
            n < s.gone ∨ n = msg.serial := by
          intro n
          rw [List.length_append, List.length_singleton, hserial, AlarmState.gone]
          omega
        refine { h with queue := ?_, past := ?_, removed := ?_, proc := ?_ }
        · simpa [AlarmState.gone, Nat.add_assoc] using (h.queue.tail hhead).1
        · intro n hn
          rcases (hgone n).1 hn with hlt | rfl
          · exact h.past n hlt
          · exact .inl hdispatched
        · intro d hd
          rcases List.mem_append.1 hd with hd | hd
          · exact h.removed d hd
          · obtain rfl := List.mem_singleton.1 hd
            rfl
        · intro n hn
          exact .inl ((hgone n).2 ((hbefore n hn).imp_right Option.some.inj))
      · have hnone : lookup AlarmMsg.addr msg.addr s.headlist = none :=
          lookup_eq_none.2 fun m hm heq => haddr (heq ▸ List.mem_map_of_mem hm)
        rw [alarmMsgDel, hnone]
        exact { h with proc := hbefore }
  · cases hs

theorem AlarmInv.step (h : AlarmInv s) (hs : stepWhen Undisturbed AlarmStep s e s') :
    AlarmInv s' := by
  obtain ⟨hu, hs⟩ := hs
  cases e with
  | input info addr => exact h.input hu hs
  | msgOut => exact h.msgOut hs
  | postLoop count => exact h.postLoop hs
  | callback => exact h.callback hs
  | msgDel => exact h.msgDel hs

/-! ## Runs -/

theorem run_alarmInv {tr : List AlarmEvent}
    (h : Run (stepWhen Undisturbed AlarmStep) .init tr s) : AlarmInv s :=
  h.stateInvariant AlarmInv .init fun _ _ _ hI hs => hI.step hs

/-- An event of `AlarmManageProc`. -/
def AlarmEvent.OfThread : AlarmEvent → Prop
  | .input _ _ => False
  | _ => True

/-- An event of `AlarmManageProc` while `count` callbacks are registered. -/
def AlarmEvent.OfRound (count : ℕ) : AlarmEvent → Prop
  | .input _ _ => False
  | .postLoop n => n = count
  | _ => True

theorem AlarmEvent.OfRound.ofThread {count : ℕ} (he : e.OfRound count) : e.OfThread := by
  cases e with
  | input info addr => exact he
  | msgOut => trivial
  | postLoop n => trivial
  | callback => trivial
  | msgDel => trivial

theorem undisturbed_of_thread (s : AlarmState) (he : e.OfThread) : Undisturbed s e := by
  cases e with
  | input info addr => exact absurd he id
  | msgOut => trivial
  | postLoop count => trivial
  | callback => trivial
  | msgDel => trivial

/-- The thread by itself keeps the invariant. -/
theorem AlarmInv.thread {tr : List AlarmEvent} (h : AlarmInv s) (hrun : Run AlarmStep s tr s')
    (htr : ∀ e ∈ tr, e.OfThread) : AlarmInv s' := by
  induction hrun with
  | nil => exact h
  | snoc _ hs ih =>
      simp only [List.mem_append, List.mem_singleton] at htr
      exact (ih fun e he => htr e (.inl he)).step ⟨undisturbed_of_thread _ (htr _ (.inr rfl)), hs⟩

/-- The callbacks that are left are called and the record is removed. -/
theorem AlarmInv.run_posting {left : ℕ} (h : AlarmInv s) (hpc : s.proc = .posting msg left)
    (count : ℕ) :
    ∃ tr s', (∀ e ∈ tr, e.OfRound count) ∧ Run AlarmStep s tr s' ∧ s'.proc = .idle ∧
      s'.headlist = eraseFirst AlarmMsg.addr msg.addr s.headlist := by
  induction left generalizing s with
  | zero =>
      refine ⟨[.msgDel], { (alarmMsgDel msg s).2 with proc := .idle }, by simp [AlarmEvent.OfRound],
        Run.nil.snoc (s := s) ?_, rfl, ?_⟩
      · simp only [AlarmStep, alarmStep, hpc]
      · cases hl : lookup AlarmMsg.addr msg.addr s.headlist with
        | none =>
            rw [alarmMsgDel, hl]
            refine (List.eraseP_of_forall_not fun m hm => ?_).symm
            simpa using lookup_eq_none.1 hl m hm
        | some found => rw [alarmMsgDel, hl]
  | succ left ih =>
      have hs : AlarmStep s .callback
          { s.alarmPushLoopDoFunc msg with proc := .posting msg left } := by
        simp only [AlarmStep, alarmStep, hpc]
      obtain ⟨tr, s', htr, hrun, hidle, herase⟩ := ih (h.callback hs) rfl
      refine ⟨[.callback] ++ tr, s', ?_, (Run.nil.snoc hs).append hrun, hidle, herase⟩
      simpa [AlarmEvent.OfRound] using htr

/-- Between two rounds the thread dispatches the head, whatever the number of callbacks. -/
theorem AlarmInv.run_round (h : AlarmInv s) (hpc : s.proc = .idle) (count : ℕ)
    (hhead : s.headlist.head? = some msg) :
    ∃ tr s', (∀ e ∈ tr, e.OfRound count) ∧ Run AlarmStep s tr s' ∧ s'.proc = .idle ∧
      s'.headlist = eraseFirst AlarmMsg.addr msg.addr s.headlist := by
  have hs₁ : AlarmStep s .msgOut { s with proc := .out msg } := by
    simp only [AlarmStep, alarmStep, hpc, alarmMsgOut, hhead]
  have hs₂ : AlarmStep { s with proc := .out msg } (.postLoop count)
      { s with proc := .posting msg count, dispatched := s.dispatched ++ [msg.serial] } := rfl
  obtain ⟨tr, s', htr, hrun, hidle, herase⟩ := ((h.msgOut hs₁).postLoop hs₂).run_posting rfl count
  refine ⟨[.msgOut] ++ [.postLoop count] ++ tr, s', ?_,
    ((Run.nil.snoc hs₁).snoc hs₂).append hrun, hidle, herase⟩
  simpa [AlarmEvent.OfRound] using htr

/-- The thread comes to the end of the round it is in. -/
theorem AlarmInv.run_finish (h : AlarmInv s) (count : ℕ) :
    ∃ tr s', (∀ e ∈ tr, e.OfRound count) ∧ Run AlarmStep s tr s' ∧ s'.proc = .idle := by
  cases hpc : s.proc with
  | idle => exact ⟨[], s, by simp, .nil, hpc⟩
  | out msg =>
      have hs : AlarmStep s (.postLoop count)
          { s with proc := .posting msg count, dispatched := s.dispatched ++ [msg.serial] } := by
        simp only [AlarmStep, alarmStep, hpc]
      obtain ⟨tr, s', htr, hrun, hidle, -⟩ := (h.postLoop hs).run_posting rfl count
      refine ⟨[.postLoop count] ++ tr, s', ?_, (Run.nil.snoc hs).append hrun, hidle⟩
      simpa [AlarmEvent.OfRound] using htr
  | posting msg left =>
      obtain ⟨tr, s', htr, hrun, hidle, -⟩ := h.run_posting hpc count
      exact ⟨tr, s', htr, hrun, hidle⟩

/-- The thread by itself empties the queue. -/
theorem AlarmInv.run_drain (h : AlarmInv s) (hpc : s.proc = .idle) (count : ℕ) :
    ∃ tr s', (∀ e ∈ tr, e.OfRound count) ∧ Run AlarmStep s tr s' ∧ s'.headlist = [] := by
  generalize hlen : s.headlist.length = n
  induction n generalizing s with
  | zero => exact ⟨[], s, by simp, .nil, List.length_eq_zero_iff.1 hlen⟩
  | succ n ih =>
      obtain ⟨msg, hmsg⟩ : ∃ msg, s.headlist.head? = some msg := by
        rw [← Option.isSome_iff_exists, List.isSome_head?]
        simpa [← List.length_pos_iff] using hlen ▸ Nat.succ_pos n
      obtain ⟨tr, s₁, htr, hrun, hidle, hlist⟩ := h.run_round hpc count hmsg
      obtain ⟨-, -, hcons⟩ := h.queue.head hmsg
      rw [hcons, List.length_cons, ← hlist, Nat.succ_inj] at hlen
      obtain ⟨tr', s', htr', hrun', hempty⟩ := ih (h.thread hrun fun e he => (htr e he).ofThread) hidle hlen
      refine ⟨tr ++ tr', s', fun e he => ?_, hrun.append hrun', hempty⟩
      exact (List.mem_append.1 he).elim (htr e) (htr' e)

/-! ## What goes wrong -/

/-- A record that is dropped is not in the queue any more. -/
theorem AlarmInv.not_mem_tail (h : AlarmInv s) (hmsg : s.headlist.head? = some msg) :
    msg ∉ eraseFirst AlarmMsg.addr msg.addr s.headlist := fun hmem =>
  (h.queue.tail hmsg).2 (List.mem_map_of_mem hmem)

/-- An overflow while a record is in dispatch frees that record. -/
theorem AlarmInv.not_exactlyOnce_of_overflow (h : AlarmInv s)
    (hs : AlarmStep s (.input info addr) s') (hfull : s.msgnum > maxPushmsgNum)
    (hcur : s.proc.current = some msg) : ¬ s'.ExactlyOnce := by
  intro honce
  have hhead := h.current hcur
  have hserial := (h.queue.head hhead).1
  have hlength := h.queue.length
  obtain ⟨r, hin, rfl⟩ := Option.map_eq_some_iff.1 hs
  unfold alarmMsgInput AlarmState.makeRoom at hin
  rw [if_pos hfull, hhead] at hin
  simp only [Option.map_some] at hin
  split at hin
  · cases hin
  · cases hin
    rcases List.mem_append.1 (honce.allocated msg hcur) with hmem | hmem
    · exact h.not_mem_tail hhead hmem
    · rw [List.mem_singleton] at hmem
      have hnew := congrArg AlarmMsg.serial hmem
      simp only at hnew
      have hpos : 0 < s.headlist.length := List.length_pos_of_mem (List.mem_of_mem_head? hhead)
      omega

/-- A record at the address the thread has a pointer to is the one `AlarmMsgDel` removes. -/
theorem AlarmInv.not_exactlyOnce_of_reuse (h : AlarmInv s)
    (hroom : s.msgnum ≤ maxPushmsgNum ∨ s.proc.current = none)
    (hs : AlarmStep s (.input info addr) s') (hheld : s.proc.held = some msg)
    (haddr : msg.addr = addr) :
    ∃ s'', AlarmStep s' .msgDel s'' ∧ ¬ s''.ExactlyOnce := by
  obtain ⟨r, hin, rfl⟩ := Option.map_eq_some_iff.1 hs
  unfold alarmMsgInput at hin
  split at hin
  · next hnone =>
      -- an empty queue is not full
      unfold AlarmState.makeRoom at hnone
      split at hnone
      · next hfull =>
          rw [Option.map_eq_none_iff, List.head?_eq_none_iff] at hnone
          have hnum := h.queue.msgnum
          rw [hnone] at hnum
          rw [hnum] at hfull
          exact absurd hfull (by decide)
      · cases hnone
  · next s₁ hs₁ =>
      obtain ⟨h₁, hproc, -⟩ := h.makeRoom hs₁ hroom
      split at hin
      · cases hin
      · next hfresh =>
          cases hin
          have hok := h₁.proc
          have hlive : s₁.headlist.head? ≠ some msg := fun hhead =>
            hfresh (haddr ▸ List.mem_map_of_mem (List.mem_of_mem_head? hhead))
          rw [← hproc] at hheld
          cases hpc : s₁.proc with
          | idle => simp [hpc, ProcPc.held] at hheld
          | out m =>
              rw [hpc] at hheld hok
              cases hheld
              exact absurd hok.1 hlive
          | posting m left =>
              rw [hpc] at hheld hok
              cases hheld
              obtain ⟨hdispatched, ⟨hhead, -⟩ | ⟨rfl, hgone, hbefore⟩⟩ := hok
              · exact absurd hhead hlive
              have hnone : lookup AlarmMsg.addr msg.addr s₁.headlist = none :=
                lookup_eq_none.2 fun m hm heq => hgone (heq ▸ List.mem_map_of_mem hm)
              have hlookup : lookup AlarmMsg.addr msg.addr (s₁.append info addr).headlist =
                  some ⟨addr, s₁.accepted.length, info⟩ := by
                rw [AlarmState.append, lookup, List.find?_append, ← lookup, hnone]
                simp [haddr]
              refine ⟨{ (alarmMsgDel msg (s₁.append info addr)).2 with proc := .idle }, ?_, ?_⟩
              · simp only [AlarmStep, alarmStep, show (s₁.append info addr).proc = s₁.proc from rfl,
                  hpc]
              · intro honce
                have hremoved := honce.removed (msg.serial, s₁.accepted.length)
                rw [alarmMsgDel, hlookup] at hremoved
                have heq : msg.serial = s₁.accepted.length := by simpa using hremoved
                have hlength := h₁.queue.length
                rcases hbefore _ hdispatched with hlt | hnone
                · omega
                · cases hnone

/-- **Alarms are dispatched exactly once.** In every state of a run, and however the thread goes on
    from there, every accepted alarm has been dispatched exactly once, was dropped undispatched as the
    oldest, or waits, and its record is neither freed nor mistaken while it is dispatched, exactly when
    every `AlarmMsgInput` of the run leaves the dispatch alone. The thread can then dispatch all that
    waits. -/
theorem alarms_exactlyOnce {tr : List AlarmEvent} (h : Run AlarmStep .init tr s) :
    ((∀ pre s₁ cont s₂, pre <+: tr → Run AlarmStep .init pre s₁ → (∀ e ∈ cont, e.OfThread) →
        Run AlarmStep s₁ cont s₂ → s₂.ExactlyOnce) ↔
      Run (stepWhen Undisturbed AlarmStep) .init tr s) ∧
    (Run (stepWhen Undisturbed AlarmStep) .init tr s → ∀ count : ℕ, ∃ cont s',
      (∀ e ∈ cont, e.OfRound count) ∧ Run AlarmStep s cont s' ∧ s'.headlist = []) := by
  refine ⟨⟨fun honce => ?_, fun hrun pre s₁ cont s₂ hpre h₁ hcont h₂ => ?_⟩, fun hrun count => ?_⟩
  · induction h with
    | nil => exact .nil
    | @snoc tr s₁ s₂ e hrun hs ih =>
        have hgood := ih fun pre s₁ cont s₂ hpre => honce pre s₁ cont s₂
          (hpre.trans (List.prefix_append _ _))
        refine hgood.snoc ⟨?_, hs⟩
        have hinv := run_alarmInv hgood
        cases e with
        | input info addr =>
            have hroom : s₁.msgnum ≤ maxPushmsgNum ∨ s₁.proc.current = none := by
              by_contra hneg
              rw [not_or, Int.not_le] at hneg
              obtain ⟨msg, hmsg⟩ := Option.ne_none_iff_exists'.1 hneg.2
              exact hinv.not_exactlyOnce_of_overflow hs hneg.1 hmsg
                (honce _ s₂ [] s₂ List.prefix_rfl (hrun.snoc hs) (by simp) .nil)
            refine ⟨hroom, fun msg hheld haddr => ?_⟩
            obtain ⟨s₃, hdel, hneg⟩ := hinv.not_exactlyOnce_of_reuse hroom hs hheld haddr
            exact hneg (honce _ s₂ [.msgDel] s₃ List.prefix_rfl (hrun.snoc hs)
              (by simp [AlarmEvent.OfThread]) (Run.nil.snoc hdel))
        | msgOut => trivial
        | postLoop count => trivial
        | callback => trivial
        | msgDel => trivial
  · obtain ⟨s₁', h₁'⟩ := hrun.prefix hpre
    obtain rfl := h₁.deterministic (fun _ _ _ _ ha hb => Option.some.inj (ha.symm.trans hb))
      (h₁'.mono fun _ _ _ hs => hs.2)
    exact ((run_alarmInv h₁').thread h₂ hcont).exactlyOnce
  · have hinv := run_alarmInv hrun
    obtain ⟨cont, s₁, hcont, hfinish, hidle⟩ := hinv.run_finish count
    obtain ⟨cont', s', hcont', hdrain, hempty⟩ := 
      (hinv.thread hfinish fun e he => (hcont e he).ofThread).run_drain hidle count
    exact ⟨cont ++ cont', s', fun e he => (List.mem_append.1 he).elim (hcont e) (hcont' e),
      hfinish.append hdrain, hempty⟩

/-! ## The two ways an alarm is lost -/

def sampleAlarm : AlarmInfo := ⟨.smoke, ⟨2024, 5, 1, 10, 0, 0⟩, 0⟩

/-- One alarm, dispatched to two callbacks while another arrives. -/
def quietEvents : List AlarmEvent :=
  [.input sampleAlarm 0, .msgOut, .postLoop 2, .callback, .input sampleAlarm 1, .callback, .msgDel]

instance (s : AlarmState) : (e : AlarmEvent) → Decidable (Undisturbed s e)
  | .input _ addr => decidable_of_iff
      ((s.msgnum ≤ maxPushmsgNum ∨ s.proc.current = none) ∧ ∀ msg ∈ s.proc.held, msg.addr ≠ addr)
      Iff.rfl
  | .msgOut | .postLoop _ | .callback | .msgDel => .isTrue trivial

theorem alarms_exactlyOnce_quiet :
    ∃ s, Run AlarmStep .init quietEvents s ∧ s.ExactlyOnce ∧ s.headlist.length = 1 := by
  obtain ⟨s, hrun, hlength⟩ : ∃ s, Run (stepWhen Undisturbed AlarmStep) .init quietEvents s ∧
      s.headlist.length = 1 :=
    Run.exists_of_eval (stepWhen_of_eval fun _ _ _ h => h) (by decide)
  have hrun' : Run AlarmStep .init quietEvents s := hrun.mono fun _ _ _ hs => hs.2
  exact ⟨s, hrun', (alarms_exactlyOnce hrun').1.2 hrun quietEvents s [] s List.prefix_rfl hrun'
    (by simp) .nil, hlength⟩

/-- The queue with the alarms of `n` calls, when nobody dispatches them. -/
def filledQueue (n : ℕ) : AlarmState :=
  { AlarmState.init with
    headlist := (List.range n).map fun i => ⟨i, i, sampleAlarm⟩
    msgnum := n
    accepted := List.replicate n sampleAlarm }

theorem run_inputs {n : ℕ} (hn : n ≤ 201) :
    Run AlarmStep .init ((List.range n).map fun i => .input sampleAlarm i) (filledQueue n) := by
  induction n with
  | zero => exact .nil
  | succ n ih =>
      have hnum : (filledQueue n).msgnum = n := rfl
      have hroom : ¬ (filledQueue n).msgnum > maxPushmsgNum := by
        rw [hnum, maxPushmsgNum]
        omega
      have hfresh : n ∉ (filledQueue n).headlist.map AlarmMsg.addr := by simp [filledQueue]
      have happend : (filledQueue n).append sampleAlarm n = filledQueue (n + 1) := by
        simp [filledQueue, AlarmState.append, List.range_succ, List.replicate_succ']
      rw [List.range_succ, List.map_append]
      refine (ih (by omega)).snoc ?_
      rw [AlarmStep, alarmStep, alarmMsgInput, AlarmState.makeRoom, if_neg hroom]
      simp only [if_neg hfresh, Option.map_some, happend]

/-- The queue is full; its head is dispatched when the next alarm arrives, which is given the address
    of the record that is dropped, and is removed in its place. -/
def overflowEvents : List AlarmEvent :=
  (List.range 201).map (fun i => .input sampleAlarm i) ++
    [.msgOut, .postLoop 1, .input sampleAlarm 0, .callback, .msgDel]

/-- The last alarm is neither dispatched nor dropped, and its record is freed in place of another. -/
theorem alarm_removed_undispatched :
    ∃ s, Run AlarmStep .init overflowEvents s ∧ ¬ s.ExactlyOnce := by
  obtain ⟨s, hlast, hlost⟩ : ∃ s, Run AlarmStep (filledQueue 201)
      [.msgOut, .postLoop 1, .input sampleAlarm 0, .callback, .msgDel] s ∧
      (s.accepted.length = 202 ∧ 201 ∉ s.headlist.map AlarmMsg.serial ∧ s.dispatched = [0] ∧
        s.evicted.map Prod.fst = [0]) :=
    Run.exists_of_eval (fun _ _ _ h => h) (by decide +kernel)
  have hrun : Run AlarmStep .init overflowEvents s := (run_inputs (Nat.le_refl 201)).append hlast
  refine ⟨s, hrun, fun honce => ?_⟩
  obtain ⟨hlength, hqueue, hdispatched, hevicted⟩ := hlost
  rcases honce.accounted 201 (by omega) with hmem | hmem | hmem
  · exact hqueue hmem
  · simp [hdispatched] at hmem
  · simp [hevicted] at hmem

end SmartPlat.AlarmManage
