import SmartPlat.TSocket.NetServer

set_option autoImplicit false

/-! # How often sockets are closed

An entry is given up on three paths. `READ_ERROR` closes the socket and lets the callback close it again,
the way out after `fstat` lets the callback close a number that `fstat` has just found closed, and
`CheckSelectExcept` calls no callback. So the sockets are closed once in every state of a run exactly as
long as none of the paths is followed to that point. -/

namespace SmartPlat.TSocket

open SmartPlat.Lib

variable {closecb : CloseCb} {x x' : NetState × SocketLog} {s s' : NetState} {log : SocketLog}
  {e : NetEvent}

/-- Every accepted socket has been passed to `close` and to the callback at most once, and once when its
    entry has been dropped or the thread has ended; no number has been closed that no longer stood for
    the entry's socket. -/
structure ClosedOnce (x : NetState × SocketLog) : Prop where
  once : ∀ k ∈ x.2.accepted, x.2.closes.count k ≤ 1 ∧ x.2.callbacks.count k ≤ 1
  dropped : ∀ k ∈ x.2.accepted, k ∈ x.2.dropped ∨ x.1.pc = .ended →
    x.2.closes.count k = 1 ∧ x.2.callbacks.count k = 1
  inTime : x.2.late = false

/-- The next act, and the entry that is given up. -/
def NetPc.nextAct : NetPc → Option (RemovalAct × SocketList)
  | .remove (a :: _) sockInfo _ => some (a, sockInfo)
  | _ => none

/-- What an act of giving an entry up has to be like. -/
def KeepsAct (s : NetState) (sockInfo : SocketList) : RemovalAct → Prop
  | .listRemove => True
  | .close => s.table.file sockInfo.sockfd = some sockInfo.file
  | .closecb => False
  | .free => sockInfo.socketType = .main

instance (s : NetState) (sockInfo : SocketList) : (a : RemovalAct) → Decidable (KeepsAct s sockInfo a)
  | .listRemove => isTrue trivial
  | .close => inferInstanceAs (Decidable (_ = _))
  | .closecb => isFalse id
  | .free => inferInstanceAs (Decidable (_ = _))

/-- What a step has to be like. -/
def KeepsSockets (x : NetState × SocketLog) : NetEvent → Prop
  | .leave => ∀ sockInfo ∈ x.1.list, sockInfo.socketType = .main
  | .accept fd granted => 0 < fd ∧ granted
  | .act => ∀ a ∈ x.1.pc.nextAct, KeepsAct x.1 a.2 a.1
  | _ => True

instance (x : NetState × SocketLog) : (e : NetEvent) → Decidable (KeepsSockets x e)
  | .leave => inferInstanceAs (Decidable (∀ sockInfo ∈ x.1.list, _))
  | .accept _ _ => inferInstanceAs (Decidable (_ ∧ _))
  | .act => inferInstanceAs (Decidable (∀ a ∈ x.1.pc.nextAct, _))
  | .otherOpen _ | .otherClose _ | .setTsockFlag _ | .select _ _ | .selectTimeout | .selectError
  | .visit | .acceptError | .recvLeave | .recvTimeout | .recvError | .recv _ | .fstat => isTrue trivial

/-! ## Steps that touch sockets -/

theorem leave_cases (hs : s.threadStep closecb .leave = some s') :
    s.pc = .loop ∧ s' = { s with pc := .ended } := by
  rw [NetState.threadStep] at hs
  split at hs
  · next hpc =>
      rw [NetState.loopStep] at hs
      split at hs
      · exact nomatch hs
      · exact ⟨hpc, (Option.some.inj hs).symm⟩
  all_goals exact nomatch hs

theorem accept_cases {fd : ℕ} {granted : Bool}
    (hs : s.threadStep closecb (.accept fd granted) = some s') :
    ∃ scan, s.pc = .scan scan ∧ s' = s.accept scan fd granted := by
  rw [NetState.threadStep] at hs
  split at hs
  case h_2 scan hpc =>
    rw [NetState.scanStep] at hs
    split at hs
    · exact ⟨scan, hpc, (Option.some.inj hs).symm⟩
    · exact nomatch hs
  all_goals exact nomatch hs

theorem act_cases (hs : s.threadStep closecb .act = some s') :
    ∃ a acts sockInfo scan, s.pc = .remove (a :: acts) sockInfo scan ∧
      s' = { s.act closecb sockInfo a with pc := NetState.resume acts sockInfo scan } := by
  rw [NetState.threadStep] at hs
  split at hs
  case h_5 acts sockInfo scan hpc =>
    cases acts with
    | nil => exact nomatch hs
    | cons a acts => exact ⟨a, acts, sockInfo, scan, hpc, (Option.some.inj hs).symm⟩
  all_goals exact nomatch hs

/-! ## The invariant -/

/-- The entries that the thread still looks at. -/
def NetPc.sockets : NetPc → List SocketList
  | .loop | .ended => []
  | .scan ⟨_, _, rest⟩ => rest
  | .recv sockInfo _ ⟨_, _, rest⟩ => sockInfo :: rest
  | .fstat rest => rest
  | .remove _ sockInfo none => [sockInfo]
  | .remove _ sockInfo (some ⟨_, _, rest⟩) => sockInfo :: rest

/-- An entry for a file that has been opened; those of clients have been accepted. -/
structure Known (next : ℕ) (accepted : List ℕ) (sockInfo : SocketList) : Prop where
  pos : 0 < sockInfo.sockfd
  opened : sockInfo.file < next
  sub : sockInfo.socketType = .sub ↔ sockInfo.file ∈ accepted

/-- The rest of a path; when the callback is next, the number no longer stands for the file. -/
structure OnPath (t : Descriptors) (acts : List RemovalAct) (sockInfo : SocketList) : Prop where
  path : acts <:+ exceptActs ∨ acts <:+ readErrorActs ∨ acts = selectErrorActs
  ne_nil : acts ≠ []
  stale : acts.head? = some .closecb → t.Stale sockInfo.sockfd sockInfo.file

/-- Nothing has gone wrong: no callback has been called and no client dropped. -/
structure SocketsInv (x : NetState × SocketLog) : Prop where
  callbacks : x.2.callbacks = []
  inTime : x.2.late = false
  dropped : ∀ k ∈ x.2.dropped, k < x.1.table.next ∧ k ∉ x.2.accepted
  closed : ∀ k ∈ x.2.closes, k < x.1.table.next
  ended : x.1.pc = .ended → x.2.accepted = []
  known : ∀ sockInfo ∈ x.1.list ++ x.1.pc.sockets, Known x.1.table.next x.2.accepted sockInfo
  /-- An accepted socket has its entry in the list, or is the one that is given up. -/
  held : ∀ k ∈ x.2.accepted,
    (∃ sockInfo ∈ x.1.list, sockInfo.socketType = .sub ∧ sockInfo.file = k) ∨
      ∃ acts sockInfo scan, x.1.pc = .remove acts sockInfo scan ∧ sockInfo.socketType = .sub ∧
        sockInfo.file = k
  closes : ∀ k ∈ x.2.accepted, x.2.closes.count k ≤ 1 ∧
    ((∀ acts sockInfo scan, x.1.pc = .remove acts sockInfo scan → sockInfo.file = k → .close ∈ acts) →
      x.2.closes.count k = 0)
  path : ∀ acts sockInfo scan, x.1.pc = .remove acts sockInfo scan → OnPath x.1.table acts sockInfo

theorem SocketsInv.closedOnce (h : SocketsInv x) : ClosedOnce x where
  once k hk := by
    rw [h.callbacks, List.count_nil]
    exact ⟨(h.closes k hk).1, Nat.zero_le 1⟩
  dropped k hk hdrop := by
    rcases hdrop with hdrop | hended
    · exact absurd hk (h.dropped k hdrop).2
    · rw [h.ended hended] at hk
      exact absurd hk List.not_mem_nil
  inTime := h.inTime

theorem SocketsInv.start {table : Descriptors} (param : NetServerParam table) :
    SocketsInv (netServerThead param, .empty) where
  callbacks := rfl
  inTime := rfl
  dropped _ hk := absurd hk List.not_mem_nil
  closed _ hk := absurd hk List.not_mem_nil
  ended h := nomatch h
  known sockInfo hmem := by
    simp only [netServerThead, NetPc.sockets, List.append_nil, List.mem_singleton] at hmem
    subst hmem
    exact ⟨param.pos, table.opened param.isOpen, iff_of_false nofun List.not_mem_nil⟩
  held _ hk := absurd hk List.not_mem_nil
  closes _ hk := absurd hk List.not_mem_nil
  path _ _ _ h := nomatch h

/-! ## Steps that meet the condition -/

/-- Other threads open and close files, or set the flag. -/
theorem SocketsInv.other (h : SocketsInv (s, log)) {t : Descriptors} (b : Bool)
    (hnext : s.table.next ≤ t.next) (hstale : ∀ fd k, s.table.Stale fd k → t.Stale fd k) :
    SocketsInv ({ s with table := t, bTsockFlag := b }, log) where
  callbacks := h.callbacks
  inTime := h.inTime
  dropped k hk := ⟨Nat.lt_of_lt_of_le (h.dropped k hk).1 hnext, (h.dropped k hk).2⟩
  closed k hk := Nat.lt_of_lt_of_le (h.closed k hk) hnext
  ended := h.ended
  known sockInfo hmem :=
    have hknown := h.known sockInfo hmem
    ⟨hknown.pos, Nat.lt_of_lt_of_le hknown.opened hnext, hknown.sub⟩
  held := h.held
  closes := h.closes
  path acts sockInfo scan hpc :=
    have hpath := h.path acts sockInfo scan hpc
    ⟨hpath.path, hpath.ne_nil, fun hhead => hstale _ _ (hpath.stale hhead)⟩

/-- The thread goes on without touching a socket; an entry that it gives up from then on is on its way. -/
theorem SocketsInv.goOn (h : SocketsInv (s, log)) {pc₀ pc : NetPc} (hpc : s.pc = pc₀)
    (hnot : ∀ acts sockInfo scan, pc₀ ≠ .remove acts sockInfo scan)
    (hended : pc = .ended → log.accepted = [])
    (hsockets : ∀ sockInfo ∈ pc.sockets, sockInfo ∈ s.list ++ pc₀.sockets)
    (hpath : ∀ acts sockInfo scan, pc = .remove acts sockInfo scan → OnPath s.table acts sockInfo) :
    SocketsInv ({ s with pc }, log) where
  callbacks := h.callbacks
  inTime := h.inTime
  dropped := h.dropped
  closed := h.closed
  ended := hended
  known sockInfo hmem := by
    rcases List.mem_append.1 hmem with hmem | hmem
    · exact h.known sockInfo (List.mem_append_left _ hmem)
    · exact h.known sockInfo (hpc ▸ hsockets sockInfo hmem)
  held k hk := by
    rcases h.held k hk with hheld | ⟨acts, sockInfo, scan, heq, -⟩
    · exact .inl hheld
    · exact absurd (hpc.symm.trans heq) (hnot acts sockInfo scan)
  closes k hk := by
    have hzero := (h.closes k hk).2 fun acts sockInfo scan heq =>
      absurd (hpc.symm.trans heq) (hnot acts sockInfo scan)
    exact ⟨(h.closes k hk).1, fun _ => hzero⟩
  path acts sockInfo scan heq := hpath acts sockInfo scan heq

theorem onPath_except (t : Descriptors) (sockInfo : SocketList) : OnPath t exceptActs sockInfo :=
  ⟨.inl List.suffix_rfl, List.cons_ne_nil _ _, fun h => nomatch h⟩

theorem onPath_readError (t : Descriptors) (sockInfo : SocketList) :
    OnPath t readErrorActs sockInfo :=
  ⟨.inr (.inl List.suffix_rfl), List.cons_ne_nil _ _, fun h => nomatch h⟩

/-- The number that `fstat` has found closed. -/
theorem onPath_selectError {t : Descriptors} {sockInfo : SocketList} (hopened : sockInfo.file < t.next)
    (hnone : t.file sockInfo.sockfd = none) : OnPath t selectErrorActs sockInfo := by
  refine ⟨.inr (.inr rfl), List.cons_ne_nil _ _, fun _ => ⟨?_, hopened⟩⟩
  rw [hnone]
  nofun

theorem SocketsInv.accept (h : SocketsInv (s, log)) {scan : Scan} (hpc : s.pc = .scan scan) {fd : ℕ}
    (hfd : 0 < fd) : SocketsInv (s.accept scan fd true,
      { log with accepted := s.table.next :: log.accepted }) := by
  have hscan : s.accept scan fd true = ({ s with
      table := s.table.openAt fd
      list := s.list ++ [⟨fd, .sub, s.table.next⟩]
      pc := .scan { scan with
        rest := if scan.rest.tail = [] then [] else scan.rest.tail ++ [⟨fd, .sub, s.table.next⟩] } } :
      NetState) := if_pos ⟨hfd, rfl⟩
  have hne : ∀ {k}, k < s.table.next → k ≠ s.table.next := Nat.ne_of_lt
  rw [hscan]
  refine ⟨h.callbacks, h.inTime, ?_, fun k hk => Nat.lt_succ_of_lt (h.closed k hk), nofun, ?_, ?_, ?_,
    nofun⟩
  · intro k hk
    have hold := h.dropped k hk
    exact ⟨Nat.lt_succ_of_lt hold.1, List.not_mem_cons_of_ne_of_not_mem (hne hold.1) hold.2⟩
  · intro sockInfo hmem
    have hcases : sockInfo ∈ s.list ++ s.pc.sockets ∨ sockInfo = ⟨fd, .sub, s.table.next⟩ := by
      rw [hpc]
      simp only [NetPc.sockets, List.mem_append, List.mem_singleton] at hmem ⊢
      rcases hmem with (hmem | rfl) | hmem
      · exact .inl (.inl hmem)
      · exact .inr rfl
      · split at hmem
        · exact absurd hmem List.not_mem_nil
        · rw [List.mem_append, List.mem_singleton] at hmem
          exact hmem.imp_left fun htail => .inr (List.mem_of_mem_tail htail)
    rcases hcases with hmem | rfl
    · have hknown := h.known sockInfo hmem
      refine ⟨hknown.pos, Nat.lt_succ_of_lt hknown.opened, hknown.sub.trans ?_⟩
      rw [List.mem_cons, or_iff_right (hne hknown.opened)]
    · exact ⟨hfd, Nat.lt_succ_self _, iff_of_true rfl List.mem_cons_self⟩
  · intro k hk
    rcases List.mem_cons.1 hk with rfl | hk
    · exact .inl ⟨_, List.mem_append_right _ List.mem_cons_self, rfl, rfl⟩
    · rcases h.held k hk with ⟨sockInfo, hmem, hheld⟩ | ⟨acts, sockInfo, scan', heq, -⟩
      · exact .inl ⟨sockInfo, List.mem_append_left _ hmem, hheld⟩
      · exact nomatch hpc.symm.trans heq
  · intro k hk
    -- the table has not given out this file before, so it has not been closed
    have hzero : log.closes.count k = 0 := by
      rcases List.mem_cons.1 hk with rfl | hk
      · exact List.count_eq_zero.2 fun hmem => absurd (h.closed _ hmem) (Nat.lt_irrefl _)
      · exact (h.closes k hk).2 fun acts sockInfo scan' heq => nomatch hpc.symm.trans heq
    exact ⟨hzero ▸ Nat.zero_le 1, fun _ => hzero⟩

/-! ### An entry on its way out -/

variable {acts : List RemovalAct} {sockInfo : SocketList} {scan : Option Scan} {t : Descriptors}

theorem OnPath.after_listRemove (h : OnPath t (.listRemove :: acts) sockInfo) :
    acts = [.close, .free] ∨ acts = [.close, .closecb, .free] := by
  have hpath := h.path
  simpa [exceptActs, readErrorActs, selectErrorActs, List.suffix_cons_iff] using hpath

theorem OnPath.after_close (h : OnPath t (.close :: acts) sockInfo) :
    acts = [.free] ∨ acts = [.closecb, .free] := by
  have hpath := h.path
  simpa [exceptActs, readErrorActs, selectErrorActs, List.suffix_cons_iff] using hpath

theorem OnPath.after_free (h : OnPath t (.free :: acts) sockInfo) : acts = [] := by
  have hpath := h.path
  simpa [exceptActs, readErrorActs, selectErrorActs, List.suffix_cons_iff] using hpath

theorem mem_sockets_remove (acts : List RemovalAct) {acts' : List RemovalAct}
    {sockInfo' : SocketList} (h : sockInfo' ∈ (NetPc.remove acts sockInfo scan).sockets) :
    sockInfo' ∈ (NetPc.remove acts' sockInfo scan).sockets := by
  cases scan <;> exact h

theorem SocketsInv.known_removed (h : SocketsInv (s, log)) (hpc : s.pc = .remove acts sockInfo scan) :
    Known s.table.next log.accepted sockInfo := by
  refine h.known sockInfo (List.mem_append_right _ ?_)
  rw [show (s, log).1.pc = _ from hpc]
  cases scan <;> exact List.mem_cons_self

theorem SocketsInv.listRemove (h : SocketsInv (s, log))
    (hpc : s.pc = .remove (.listRemove :: acts) sockInfo scan) :
    SocketsInv ({ s with list := s.list.erase sockInfo, pc := .remove acts sockInfo scan }, log) := by
  have hacts := (h.path _ _ _ hpc).after_listRemove
  have hclose : .close ∈ acts := by rcases hacts with rfl | rfl <;> exact List.mem_cons_self
  refine ⟨h.callbacks, h.inTime, h.dropped, h.closed, nofun, ?_, ?_, ?_, ?_⟩
  · intro sockInfo' hmem
    refine h.known sockInfo' (List.mem_append.2 ((List.mem_append.1 hmem).imp List.mem_of_mem_erase ?_))
    rw [show (s, log).1.pc = _ from hpc]
    exact mem_sockets_remove acts
  · intro k hk
    rcases h.held k hk with ⟨sockInfo', hmem, hsub, hfile⟩ | ⟨acts', sockInfo', scan', heq, hheld⟩
    · -- the entry that leaves the list is held by the removal from now on
      by_cases hself : sockInfo' = sockInfo
      · subst hself
        exact .inr ⟨acts, sockInfo', scan, rfl, hsub, hfile⟩
      · exact .inl ⟨sockInfo', (List.mem_erase_of_ne hself).2 hmem, hsub, hfile⟩
    · cases hpc.symm.trans heq
      exact .inr ⟨acts, sockInfo, scan, rfl, hheld⟩
  · intro k hk
    have hzero := (h.closes k hk).2 fun acts' sockInfo' scan' heq _ => by
      cases hpc.symm.trans heq
      exact List.mem_cons_of_mem _ hclose
    exact ⟨(h.closes k hk).1, fun _ => hzero⟩
  · rintro _ _ _ ⟨⟩
    refine ⟨?_, List.ne_nil_of_mem hclose, ?_⟩
    · rcases hacts with rfl | rfl
      · exact .inl (List.suffix_cons _ _)
      · exact .inr (.inl (List.suffix_cons _ _))
    · rcases hacts with rfl | rfl <;> exact nofun

theorem SocketsInv.close (h : SocketsInv (s, log))
    (hpc : s.pc = .remove (.close :: acts) sockInfo scan)
    (hown : s.table.file sockInfo.sockfd = some sockInfo.file) :
    SocketsInv ({ s with
      table := s.table.closeAt sockInfo.sockfd
      pc := .remove acts sockInfo scan }, log.close s sockInfo) := by
  have hacts := (h.path _ _ _ hpc).after_close
  have hknown := h.known_removed hpc
  -- as long as `close` is ahead, nothing has been closed
  have hzero : ∀ k ∈ log.accepted, log.closes.count k = 0 := by
    intro k hk
    refine (h.closes k hk).2 fun acts' sockInfo' scan' heq _ => ?_
    cases hpc.symm.trans heq
    exact List.mem_cons_self
  refine ⟨h.callbacks, ?_, h.dropped, ?_, nofun, ?_, ?_, ?_, ?_⟩
  · have hlate := h.inTime
    simp only [SocketLog.close, hown, ne_eq, not_true_eq_false, decide_false, Bool.or_false]
    exact hlate
  · intro k hk
    rcases List.mem_cons.1 hk with rfl | hk
    · exact hknown.opened
    · exact h.closed k hk
  · intro sockInfo' hmem
    refine h.known sockInfo' (List.mem_append.2 ((List.mem_append.1 hmem).imp_right ?_))
    rw [show (s, log).1.pc = _ from hpc]
    exact mem_sockets_remove acts
  · intro k hk
    rcases h.held k hk with hheld | ⟨acts', sockInfo', scan', heq, hheld⟩
    · exact .inl hheld
    · cases hpc.symm.trans heq
      exact .inr ⟨acts, sockInfo, scan, rfl, hheld⟩
  · intro k hk
    have hcount : (log.close s sockInfo).closes.count k = if sockInfo.file = k then 1 else 0 := by
      have hold := hzero k hk
      simp only [SocketLog.close, List.count_cons, hold, beq_iff_eq, Nat.zero_add]
    by_cases hself : sockInfo.file = k
    · rw [hcount, if_pos hself]
      refine ⟨Nat.le_refl 1, fun hin => ?_⟩
      have hmem := hin acts sockInfo scan rfl hself
      rcases hacts with rfl | rfl <;> simp at hmem
    · rw [hcount, if_neg hself]
      exact ⟨Nat.zero_le 1, fun _ => rfl⟩
  · rintro _ _ _ ⟨⟩
    refine ⟨?_, ?_, fun _ => Descriptors.stale_closeAt hknown.opened⟩
    · rcases hacts with rfl | rfl
      · exact .inl ⟨[.listRemove, .close], rfl⟩
      · exact .inr (.inl ⟨[.listRemove, .close], rfl⟩)
    · rcases hacts with rfl | rfl <;> exact List.cons_ne_nil _ _

theorem SocketsInv.free (h : SocketsInv (s, log))
    (hpc : s.pc = .remove (.free :: acts) sockInfo scan) (hmain : sockInfo.socketType = .main) :
    SocketsInv ({ s with pc := NetState.resume acts sockInfo scan },
      { log with dropped := sockInfo.file :: log.dropped }) := by
  obtain rfl := (h.path _ _ _ hpc).after_free
  have hknown := h.known_removed hpc
  -- what is freed is the listener, which was not accepted
  have hnot : sockInfo.file ∉ log.accepted := fun hmem => by
    have hsub := hknown.sub.2 hmem
    rw [hmain] at hsub
    exact nomatch hsub
  have hresume : ∀ acts' sockInfo' scan',
      NetState.resume [] sockInfo scan ≠ .remove acts' sockInfo' scan' := by
    cases scan <;> exact nofun
  refine ⟨h.callbacks, h.inTime, ?_, h.closed, ?_, ?_, ?_, ?_, ?_⟩
  · intro k hk
    rcases List.mem_cons.1 hk with rfl | hk
    · exact ⟨hknown.opened, hnot⟩
    · exact h.dropped k hk
  · cases scan <;> exact nofun
  · intro sockInfo' hmem
    refine h.known sockInfo' (List.mem_append.2 ((List.mem_append.1 hmem).imp_right ?_))
    rw [show (s, log).1.pc = _ from hpc]
    cases scan with
    | none => exact nofun
    | some scan => exact List.mem_cons_of_mem _
  · intro k hk
    rcases h.held k hk with hheld | ⟨acts', sockInfo', scan', heq, hsub, -⟩
    · exact .inl hheld
    · cases hpc.symm.trans heq
      exact nomatch hmain.symm.trans hsub
  · intro k hk
    have hzero := (h.closes k hk).2 fun acts' sockInfo' scan' heq hfile => by
      cases hpc.symm.trans heq
      exact absurd (hfile ▸ hk) hnot
    exact ⟨(h.closes k hk).1, fun _ => hzero⟩
  · intro acts' sockInfo' scan' heq
    exact absurd heq (hresume _ _ _)

/-! ### All steps -/

theorem logSockets_eq (haccept : ∀ fd granted, e ≠ .accept fd granted) (hact : e ≠ .act) :
    logSockets closecb log s e = log := by
  unfold logSockets
  split
  · exact absurd rfl (haccept _ _)
  · exact absurd rfl hact
  · exact absurd rfl hact
  · exact absurd rfl hact
  · rfl

/-- The next entry of the list. -/
theorem SocketsInv.visit (h : SocketsInv (s, log)) {scan : Scan} (hpc : s.pc = .scan scan)
    (hs : s.visit scan = some s') : SocketsInv (s', log) := by
  obtain ⟨readfds, errorfds, rest⟩ := scan
  cases rest with
  | nil =>
      cases hs
      exact h.goOn hpc nofun nofun nofun nofun
  | cons sockInfo rest =>
      have hsockets : ∀ sockInfo' ∈ sockInfo :: rest, sockInfo' ∈ s.list ++ sockInfo :: rest :=
        fun _ => List.mem_append_right _
      simp only [NetState.visit] at hs
      split at hs
      · cases hs
        refine h.goOn hpc nofun nofun hsockets ?_
        rintro _ _ _ ⟨⟩
        exact onPath_except _ _
      · split at hs
        · cases hs
          exact h.goOn hpc nofun nofun (fun _ hin => hsockets _ (List.mem_cons_of_mem _ hin)) nofun
        · split at hs
          · exact nomatch hs
          · cases hs
            exact h.goOn hpc nofun nofun hsockets nofun

theorem SocketsInv.loopStep (h : SocketsInv (s, log)) (hpc : s.pc = .loop) (hleave : e ≠ .leave)
    (hs : s.loopStep e = some s') : SocketsInv (s', log) := by
  rw [NetState.loopStep.eq_def] at hs
  split at hs
  · exact absurd rfl hleave
  · split at hs
    · cases hs
      exact h.goOn hpc nofun nofun (fun _ => List.mem_append_left _) nofun
    · exact nomatch hs
  · split at hs
    · cases hs
      exact h
    · exact nomatch hs
  · split at hs
    · cases hs
      exact h.goOn hpc nofun nofun (fun _ => List.mem_append_left _) nofun
    · exact nomatch hs
  · exact nomatch hs

theorem SocketsInv.scanStep (h : SocketsInv (s, log)) {scan : Scan} (hpc : s.pc = .scan scan)
    (haccept : ∀ fd granted, e ≠ .accept fd granted) (hs : s.scanStep scan e = some s') :
    SocketsInv (s', log) := by
  rw [NetState.scanStep.eq_def] at hs
  split at hs
  · exact h.visit hpc hs
  · exact absurd rfl (haccept _ _)
  · split at hs
    · cases hs
      exact h.goOn hpc nofun nofun
        (fun _ hin => List.mem_append_right _ (List.mem_of_mem_tail hin)) nofun
    · exact nomatch hs
  · exact nomatch hs

theorem SocketsInv.recvStep (h : SocketsInv (s, log)) {sockInfo : SocketList} {timeOutCount : ℕ}
    {scan : Scan} (hpc : s.pc = .recv sockInfo timeOutCount scan)
    (hs : s.recvStep sockInfo timeOutCount scan e = some s') : SocketsInv (s', log) := by
  have hnext : SocketsInv ({ s with pc := .scan scan }, log) := h.goOn hpc nofun nofun
    (fun _ hin => List.mem_append_right _ (List.mem_cons_of_mem _ hin)) nofun
  have hagain : ∀ n, SocketsInv ({ s with pc := .recv sockInfo n scan }, log) := fun _ =>
    h.goOn hpc nofun nofun (fun _ => List.mem_append_right _) nofun
  have hgivenUp : SocketsInv ({ s with pc := .remove readErrorActs sockInfo (some scan) }, log) := by
    refine h.goOn hpc nofun nofun (fun _ => List.mem_append_right _) ?_
    rintro _ _ _ ⟨⟩
    exact onPath_readError _ _
  rw [NetState.recvStep.eq_def] at hs
  split at hs
  · split at hs
    · exact nomatch hs
    · exact Option.some.inj hs ▸ hnext
  · split at hs
    · split at hs
      · exact Option.some.inj hs ▸ hgivenUp
      · exact Option.some.inj hs ▸ hagain _
    · exact nomatch hs
  · split at hs
    · exact Option.some.inj hs ▸ hgivenUp
    · exact nomatch hs
  · split at hs
    · split at hs
      · exact Option.some.inj hs ▸ hnext
      · exact Option.some.inj hs ▸ hagain _
    · exact nomatch hs
  · exact nomatch hs

theorem SocketsInv.fstatStep (h : SocketsInv (s, log)) {rest : List SocketList}
    (hpc : s.pc = .fstat rest) (hs : s.fstatStep rest e = some s') : SocketsInv (s', log) := by
  rw [NetState.fstatStep.eq_def] at hs
  split at hs
  · cases rest with
    | nil =>
        cases hs
        exact h.goOn hpc nofun nofun nofun nofun
    | cons sockInfo rest =>
        simp only at hs
        split at hs
        · next hnone =>
            cases hs
            have hmem : sockInfo ∈ s.list ++ s.pc.sockets := by
              rw [hpc]
              exact List.mem_append_right _ List.mem_cons_self
            refine h.goOn hpc nofun nofun (fun sockInfo' hin => ?_) ?_
            · obtain rfl := List.mem_singleton.1 hin
              exact List.mem_append_right _ List.mem_cons_self
            · rintro _ _ _ ⟨⟩
              exact onPath_selectError (h.known sockInfo hmem).opened hnone
        · cases hs
          exact h.goOn hpc nofun nofun
            (fun _ hin => List.mem_append_right _ (List.mem_cons_of_mem _ hin)) nofun
  · exact nomatch hs

/-- An act of giving an entry up. -/
theorem SocketsInv.act (h : SocketsInv (s, log)) (hkeeps : KeepsSockets (s, log) .act)
    (hs : s.threadStep closecb .act = some s') :
    SocketsInv (s', logSockets closecb log s .act) := by
  obtain ⟨a, acts, sockInfo, scan, hpc, rfl⟩ := act_cases hs
  have hkeeps : KeepsAct s sockInfo a := hkeeps (a, sockInfo) (by rw [hpc]; rfl)
  simp only [logSockets, hpc]
  cases a with
  | listRemove =>
      rcases (h.path _ _ _ hpc).after_listRemove with rfl | rfl <;> exact h.listRemove hpc
  | close =>
      rcases (h.path _ _ _ hpc).after_close with rfl | rfl <;> exact h.close hpc hkeeps
  | closecb => exact hkeeps.elim
  | free => exact h.free hpc hkeeps

theorem SocketsInv.threadStep (h : SocketsInv (s, log)) (hkeeps : KeepsSockets (s, log) e)
    (hs : s.threadStep closecb e = some s') : SocketsInv (s', logSockets closecb log s e) := by
  by_cases hact : e = .act
  · subst hact
    exact h.act hkeeps hs
  by_cases haccept : ∃ fd granted, e = .accept fd granted
  · obtain ⟨fd, granted, rfl⟩ := haccept
    obtain ⟨scan, hpc, rfl⟩ := accept_cases hs
    obtain ⟨hfd, rfl⟩ := hkeeps
    simp only [logSockets, hpc, hfd, and_self, if_true]
    exact h.accept hpc hfd
  by_cases hleave : e = .leave
  · subst hleave
    obtain ⟨hpc, rfl⟩ := leave_cases hs
    simp only [logSockets, hpc]
    -- no client is in the list when the thread ends, and none is held otherwise
    refine h.goOn hpc nofun (fun _ => List.eq_nil_iff_forall_not_mem.2 fun k hk => ?_) nofun nofun
    rcases h.held k hk with ⟨sockInfo, hmem, hsub, -⟩ | ⟨acts, sockInfo, scan, heq, -⟩
    · exact nomatch hsub.symm.trans (hkeeps sockInfo hmem)
    · exact nomatch hpc.symm.trans heq
  rw [logSockets_eq (fun fd granted heq => haccept ⟨fd, granted, heq⟩) hact]
  rw [NetState.threadStep] at hs
  split at hs
  · next hpc => exact h.loopStep hpc hleave hs
  · next hpc => exact h.scanStep hpc (fun fd granted heq => haccept ⟨fd, granted, heq⟩) hs
  · next hpc => exact h.recvStep hpc hs
  · next hpc => exact h.fstatStep hpc hs
  · rw [NetState.removeStep.eq_def] at hs
    split at hs
    · exact absurd rfl hact
    · exact nomatch hs
  · exact nomatch hs

theorem SocketsInv.step (h : SocketsInv (s, log)) (hkeeps : KeepsSockets (s, log) e)
    (hs : netStep closecb s e = some s') : SocketsInv (s', logSockets closecb log s e) := by
  rw [netStep.eq_def] at hs
  split at hs
  · next fd =>
      have hlog : logSockets closecb log s (.otherOpen fd) = log := logSockets_eq nofun nofun
      split at hs
      · rw [hlog, ← Option.some.inj hs]
        exact h.other _ (Nat.le_succ _) fun _ _ hstale => hstale.openAt fd
      · exact nomatch hs
  · next fd =>
      have hlog : logSockets closecb log s (.otherClose fd) = log := logSockets_eq nofun nofun
      rw [hlog, ← Option.some.inj hs]
      exact h.other _ (Nat.le_refl _) fun _ _ hstale => hstale.closeAt fd
  · next b =>
      have hlog : logSockets closecb log s (.setTsockFlag b) = log := logSockets_eq nofun nofun
      rw [hlog, ← Option.some.inj hs]
      exact h.other b (Nat.le_refl _) fun _ _ hstale => hstale
  · exact h.threadStep hkeeps hs

/-! ## Any other step -/

theorem CloseCb.closes_of_pos (closecb : CloseCb) {fd : ℕ} (h : 0 < fd) :
    closecb.closes fd = true := by
  cases closecb with
  | httpClose => exact decide_eq_true h
  | webHttpClose => rfl
  | hj212Close => exact decide_eq_true h

/-- A client that is dropped, or left behind, without its callback. -/
theorem not_closedOnce_of_callbacks {k : ℕ} (hcallbacks : x.2.callbacks = [])
    (hk : k ∈ x.2.accepted) (hdrop : k ∈ x.2.dropped ∨ x.1.pc = .ended) : ¬ ClosedOnce x := by
  intro h
  have hcount := (h.dropped k hk hdrop).2
  rw [hcallbacks, List.count_nil] at hcount
  exact nomatch hcount

theorem not_closedOnce_of_late (hlate : x.2.late = true) : ¬ ClosedOnce x := fun h =>
  nomatch hlate.symm.trans h.inTime

theorem late_close (h : s.table.file sockInfo.sockfd ≠ some sockInfo.file) :
    (log.close s sockInfo).late = true := by
  rw [SocketLog.close, decide_eq_true h, Bool.or_true]

theorem sub_of_ne_main (h : sockInfo.socketType ≠ .main) : sockInfo.socketType = .sub := by
  cases htype : sockInfo.socketType with
  | main => exact absurd htype h
  | sub => rfl

theorem SocketsInv.not_closedOnce_act (h : SocketsInv (s, log))
    (hkeeps : ¬ KeepsSockets (s, log) .act) (hs : s.threadStep closecb .act = some s') :
    ¬ ClosedOnce (s', logSockets closecb log s .act) := by
  obtain ⟨a, acts, sockInfo, scan, hpc, rfl⟩ := act_cases hs
  have hkeeps : ¬ KeepsAct s sockInfo a := by
    intro hact
    refine hkeeps fun b hb => ?_
    rw [show (s, log).1.pc = _ from hpc] at hb
    obtain rfl := Option.some.inj hb
    exact hact
  have hknown := h.known_removed hpc
  simp only [logSockets, hpc]
  cases a with
  | listRemove => exact absurd trivial hkeeps
  | close => exact not_closedOnce_of_late (late_close hkeeps)
  | closecb =>
      -- the number has been closed before, by the thread or by another
      have hstale := (h.path _ _ _ hpc).stale rfl
      simp only [closecb.closes_of_pos hknown.pos, if_true]
      exact not_closedOnce_of_late (late_close hstale.1)
  | free =>
      -- no callback has been called so far
      exact not_closedOnce_of_callbacks h.callbacks (hknown.sub.1 (sub_of_ne_main hkeeps))
        (.inl List.mem_cons_self)

theorem SocketsInv.not_closedOnce (h : SocketsInv (s, log)) (hkeeps : ¬ KeepsSockets (s, log) e)
    (hs : netStep closecb s e = some s') : ¬ ClosedOnce (s', logSockets closecb log s e) := by
  rw [KeepsSockets.eq_def] at hkeeps
  split at hkeeps
  · obtain ⟨sockInfo, hmem, hne⟩ : ∃ sockInfo ∈ s.list, sockInfo.socketType ≠ .main := by
      simpa only [not_forall, exists_prop] using hkeeps
    obtain ⟨hpc, rfl⟩ := leave_cases hs
    have hknown := h.known sockInfo (List.mem_append_left _ hmem)
    simp only [logSockets, hpc]
    exact not_closedOnce_of_callbacks h.callbacks (hknown.sub.1 (sub_of_ne_main hne)) (.inr rfl)
  · obtain ⟨scan, hpc, rfl⟩ := accept_cases hs
    simp only [logSockets, hpc, if_neg hkeeps]
    exact not_closedOnce_of_callbacks h.callbacks List.mem_cons_self (.inl List.mem_cons_self)
  · exact h.not_closedOnce_act hkeeps hs
  · exact absurd trivial hkeeps

/-! ## Runs -/

/-- **Sockets are closed once as long as no client is given up.** In a run of the server thread among
    other threads, the sockets are closed once in every state exactly if no close callback is called and
    no client is dropped, the thread does not end before its clients do, each connection that is accepted
    gets an entry, and each number that is closed still stands for the entry's socket. -/
theorem sockets_closedOnce_iff {table : Descriptors} (param : NetServerParam table) {tr : List NetEvent}
    {x : NetState × SocketLog}
    (h : Run (stepWith (logSockets param.closecb) (NetStep param.closecb))
      (netServerThead param, .empty) tr x) :
    (∀ pre x₁, pre <+: tr → Run (stepWith (logSockets param.closecb) (NetStep param.closecb))
      (netServerThead param, .empty) pre x₁ → ClosedOnce x₁) ↔
      Run (stepWhen KeepsSockets (stepWith (logSockets param.closecb) (NetStep param.closecb)))
        (netServerThead param, .empty) tr x := by
  refine Run.always_iff SocketsInv ?_ (.start param) (fun _ => SocketsInv.closedOnce) ?_ ?_ h
  · rintro ⟨s, log⟩ e ⟨s₁, log₁⟩ ⟨s₂, log₂⟩ ⟨hs₁, hlog₁⟩ ⟨hs₂, hlog₂⟩
    exact Prod.ext (Option.some.inj (hs₁.symm.trans hs₂)) (hlog₁.trans hlog₂.symm)
  · rintro ⟨s, log⟩ e ⟨s', log'⟩ hI hkeeps ⟨hs, hlog⟩
    obtain rfl : log' = logSockets param.closecb log s e := hlog
    exact hI.step hkeeps hs
  · rintro ⟨s, log⟩ e ⟨s', log'⟩ hI hkeeps ⟨hs, hlog⟩
    obtain rfl : log' = logSockets param.closecb log s e := hlog
    exact hI.not_closedOnce hkeeps hs

/-! ## A client that hangs up -/

/-- The three standard files and a listening socket. -/
def fourFiles : Descriptors where
  file fd := if fd < 4 then some fd else none
  next := 4
  opened := by
    intro fd k h
    split at h
    · next hlt =>
        obtain rfl := Option.some.inj h
        exact hlt
    · exact nomatch h

def httpParam : NetServerParam fourFiles := ⟨3, .httpClose, 3, by decide, rfl⟩

/-- A client comes and goes; between the two calls of `close` a thread opens a file. -/
def hangUp : List NetEvent :=
  [.select [3] [], .accept 4 true, .visit, .select [4] [], .visit, .visit, .recvError, .act, .act,
    .otherOpen 4, .act]

/-- The callback closes the file that was opened in between. -/
theorem newer_socket_closed : ∃ x, Run (stepWith (logSockets .httpClose) (NetStep .httpClose))
    (netServerThead httpParam, .empty) hangUp x ∧ x.1.table.file 4 = none ∧ ¬ ClosedOnce x := by
  obtain ⟨x, hrun, hlate, hfile⟩ : ∃ x, Run (stepWith (logSockets .httpClose) (NetStep .httpClose))
      (netServerThead httpParam, .empty) hangUp x ∧ (x.2.late = true ∧ x.1.table.file 4 = none) :=
    Run.exists_of_eval (stepWith_of_eval fun _ _ _ h => h) (by decide)
  exact ⟨x, hrun, hfile, not_closedOnce_of_late hlate⟩

/-- Two clients come and one of them is served; the other hangs up, and its socket is closed and the number
    taken by another thread before the callback. -/
def twoClients : List NetEvent :=
  [.select [3] [], .accept 4 true, .visit, .select [3, 4] [], .accept 5 true, .visit, .recv false,
    .recv true, .visit, .visit, .select [5] [], .visit, .visit, .visit, .recvError, .act, .act,
    .otherOpen 5]

theorem sockets_closedOnce_two : ∃ x : NetState × SocketLog, x.2.accepted = [5, 4] ∧ x.2.closes = [5] ∧
    ∀ pre x₁, pre <+: twoClients → Run (stepWith (logSockets .httpClose) (NetStep .httpClose))
      (netServerThead httpParam, .empty) pre x₁ → ClosedOnce x₁ := by
  obtain ⟨x, hrun, haccepted, hcloses⟩ : ∃ x,
      Run (stepWhen KeepsSockets (stepWith (logSockets .httpClose) (NetStep .httpClose)))
        (netServerThead httpParam, .empty) twoClients x ∧ x.2.accepted = [5, 4] ∧ x.2.closes = [5] :=
    Run.exists_of_eval (stepWhen_of_eval (stepWith_of_eval fun _ _ _ h => h)) (by decide)
  have h := hrun.mono fun _ _ _ hs => hs.2
  exact ⟨x, haccepted, hcloses, (sockets_closedOnce_iff httpParam h).2 hrun⟩

end SmartPlat.TSocket
