import SmartPlat.Adp.Proofs.ListenerInvariant

set_option autoImplicit false

/-! # The listeners of sessions

`highTempHandle` is a member of the session record, but `HighTemperatureDetectionUnRegister` releases it
as if it had been allocated for itself; and `AdpUnRegistHandle` releases the record also when
`HandleManageDelHandle` has not found it any more. What goes wrong so does not go away: a logout that
should not have begun ends in a `free` of what is not, or no longer, an allocation. -/

namespace SmartPlat.Adp

open SmartPlat.Lib SmartPlat.UsrManage

variable {s s' : ListenerState} {t : ℕ} {pc : ListenerPc} {h : HandlePtr} {usr : ℕ}

theorem offsetHighTempHandle_ne : offsetHighTempHandle ≠ 0 := by decide

/-! ## What goes wrong stays -/

/-- A logout that should not have begun is under way, or has ended in an invalid `free`. -/
inductive ListenerState.Debt (s : ListenerState) : Prop
  | invalid (h : s.heap.invalid ≠ [])
  /-- About to release a member of a record. -/
  | interior (t : ℕ) (h : HandlePtr) (usr : ℕ) (hpc : s.threads t = .logout .unlinked h usr)
  /-- About to find one. -/
  | listed (t : ℕ) (h : HandlePtr) (usr : ℕ) (hpc : s.threads t = .logout .found h usr)
    (hmem : highTempHandle usr ∈ s.highTempDetectionHead)
  | twice (t t' usr : ℕ) (hne : t ≠ t') (hlt : usr < s.heap.allocated)
    (hpc : (s.threads t).LogsOut usr) (hpc' : (s.threads t').LogsOut usr)
  | again (t usr : ℕ) (hpc : (s.threads t).LogsOut usr) (hfreed : usr ∈ s.heap.freed)

/-- Nothing that other threads do helps. -/
theorem ListenerState.Debt.mono (hd : s.Debt) (hinvalid : s.heap.invalid ≠ [] → s'.heap.invalid ≠ [])
    (hthreads : ∀ t stage h usr, s.threads t = .logout stage h usr →
      s'.threads t = .logout stage h usr)
    (hhead : s.highTempDetectionHead ⊆ s'.highTempDetectionHead)
    (hallocated : s.heap.allocated ≤ s'.heap.allocated) (hfreed : s.heap.freed ⊆ s'.heap.freed) :
    s'.Debt := by
  have hlogsOut : ∀ t usr, (s.threads t).LogsOut usr → (s'.threads t).LogsOut usr := by
    intro t usr hpc
    cases hst : s.threads t with
    | idle => rw [hst] at hpc; exact hpc.elim
    | cleared h => rw [hst] at hpc; exact hpc.elim
    | login stage h usr' => rw [hst] at hpc; exact hpc.elim
    | logout stage h usr' =>
        rw [hthreads t stage h usr' hst]
        rwa [hst] at hpc
  cases hd with
  | invalid h => exact .invalid (hinvalid h)
  | interior t h usr hpc => exact .interior t h usr (hthreads _ _ _ _ hpc)
  | listed t h usr hpc hmem => exact .listed t h usr (hthreads _ _ _ _ hpc) (hhead hmem)
  | twice t t' usr hne hlt hpc hpc' =>
      exact .twice t t' usr hne (Nat.lt_of_lt_of_le hlt hallocated) (hlogsOut t usr hpc)
        (hlogsOut t' usr hpc')
  | again t usr hpc hin => exact .again t usr (hlogsOut t usr hpc) (hfreed hin)

/-- A thread that is in no logout moves. -/
theorem ListenerState.Debt.other (hd : s.Debt)
    (hthreads : s'.threads = Function.update s.threads t pc)
    (hpc : ∀ stage h usr, s.threads t ≠ .logout stage h usr)
    (hinvalid : s'.heap.invalid = s.heap.invalid) (hfreed : s'.heap.freed = s.heap.freed)
    (hallocated : s.heap.allocated ≤ s'.heap.allocated)
    (hhead : s.highTempDetectionHead ⊆ s'.highTempDetectionHead) : s'.Debt := by
  refine hd.mono (fun h => hinvalid ▸ h) (fun t' stage h usr ht' => ?_) hhead hallocated
    (fun usr hin => hfreed ▸ hin)
  have hne : t' ≠ t := by
    rintro rfl
    exact hpc stage h usr ht'
  rw [hthreads, Function.update_of_ne hne, ht']

theorem ListenerState.Debt.pass (hd : s.Debt)
    (hthreads : s'.threads = Function.update s.threads t pc)
    (hpc : ∀ stage h usr, s.threads t ≠ .logout stage h usr) (hheap : s'.heap = s.heap)
    (hhead : s'.highTempDetectionHead = s.highTempDetectionHead) : s'.Debt :=
  hd.other hthreads hpc (congrArg Heap.invalid hheap) (congrArg Heap.freed hheap)
    (Nat.le_of_eq (congrArg Heap.allocated hheap.symm)) fun _ hp => hhead ▸ hp

/-- No thread of these moves. -/
theorem ListenerState.Debt.keep (hd : s.Debt) (hthreads : s'.threads = s.threads)
    (hheap : s'.heap = s.heap) (hhead : s'.highTempDetectionHead = s.highTempDetectionHead) :
    s'.Debt :=
  hd.mono (fun h => hheap ▸ h) (fun _ _ _ _ hpc => hthreads ▸ hpc) (fun _ hp => hhead ▸ hp)
    (Nat.le_of_eq (congrArg Heap.allocated hheap.symm)) fun _ hin => hheap ▸ hin

/-- A logout comes one stage further, without a listener left to release. -/
theorem ListenerState.Debt.stage (hd : s.Debt) {stage stage' : UnRegistStage}
    (hpc : s.threads t = .logout stage h usr) (hstage : stage ≠ .unlinked)
    (hfound : stage = .found → highTempHandle usr ∉ s.highTempDetectionHead)
    (hthreads : s'.threads = Function.update s.threads t (.logout stage' h usr))
    (hheap : s'.heap = s.heap) (hhead : s'.highTempDetectionHead = s.highTempDetectionHead) :
    s'.Debt := by
  have hlogsOut : ∀ t' usr', (s.threads t').LogsOut usr' → (s'.threads t').LogsOut usr' := by
    intro t' usr' hl
    rw [hthreads]
    by_cases ht : t' = t
    · subst ht
      rw [hpc] at hl
      rw [Function.update_self]
      exact hl
    · rwa [Function.update_of_ne ht]
  have hother : ∀ {t' st h' usr'}, s.threads t' = .logout st h' usr' → st ≠ stage →
      s'.threads t' = .logout st h' usr' := by
    intro t' st h' usr' ht' hst
    have hne : t' ≠ t := by
      rintro rfl
      rw [hpc] at ht'
      injection ht' with heq
      exact hst heq.symm
    rw [hthreads, Function.update_of_ne hne, ht']
  cases hd with
  | invalid h => exact .invalid (hheap ▸ h)
  | interior t' h' usr' ht' => exact .interior t' h' usr' (hother ht' hstage.symm)
  | listed t' h' usr' ht' hmem =>
      by_cases ht : t' = t
      · subst ht
        rw [hpc] at ht'
        injection ht' with hst _ husr
        exact absurd (husr ▸ hmem) (hfound hst)
      · refine .listed t' h' usr' ?_ (hhead ▸ hmem)
        rw [hthreads, Function.update_of_ne ht, ht']
  | twice t₁ t₂ usr' hne hlt h₁ h₂ =>
      exact .twice t₁ t₂ usr' hne (hheap ▸ hlt) (hlogsOut t₁ usr' h₁) (hlogsOut t₂ usr' h₂)
  | again t' usr' ht' hin => exact .again t' usr' (hlogsOut t' usr' ht') (hheap ▸ hin)

/-- The other of two logouts releases the record again. -/
theorem ListenerState.Debt.freeUsr (hd : s.Debt) (hpc : s.threads t = .logout .removed h usr) :
    ({ s with heap := s.heap.free ⟨usr, 0⟩ }.setThread t (.cleared h)).Debt := by
  have hother : ∀ t' ≠ t, ({ s with heap := s.heap.free ⟨usr, 0⟩ }.setThread t
      (.cleared h)).threads t' = s.threads t' := fun t' hne => Function.update_of_ne hne _ _
  have hmine : ∀ {usr'}, (s.threads t).LogsOut usr' → usr = usr' := by
    intro usr' hl
    rw [hpc] at hl
    exact hl
  have hleft : ∀ t' ≠ t, usr < s.heap.allocated → (s.threads t').LogsOut usr →
      ({ s with heap := s.heap.free ⟨usr, 0⟩ }.setThread t (.cleared h)).Debt := by
    intro t' hne hlt hl
    rcases Heap.freed_or_invalid hlt with hin | hinvalid
    · exact .again t' usr (by rwa [hother t' hne]) hin
    · exact .invalid hinvalid
  cases hd with
  | invalid hinvalid => exact .invalid (Heap.free_invalid_ne hinvalid)
  | interior t' h' usr' ht' =>
      have hne : t' ≠ t := by
        rintro rfl
        rw [hpc] at ht'
        cases ht'
      exact .interior t' h' usr' (by rw [hother t' hne, ht'])
  | listed t' h' usr' ht' hmem =>
      have hne : t' ≠ t := by
        rintro rfl
        rw [hpc] at ht'
        cases ht'
      exact .listed t' h' usr' (by rw [hother t' hne, ht']) hmem
  | twice t₁ t₂ usr' hne hlt h₁ h₂ =>
      by_cases ht₁ : t₁ = t
      · subst ht₁
        obtain rfl := hmine h₁
        exact hleft t₂ hne.symm hlt h₂
      · by_cases ht₂ : t₂ = t
        · subst ht₂
          obtain rfl := hmine h₂
          exact hleft t₁ hne hlt h₁
        · exact .twice t₁ t₂ usr' hne (Nat.lt_of_lt_of_eq hlt Heap.free_allocated.symm)
            (by rwa [hother t₁ ht₁]) (by rwa [hother t₂ ht₂])
  | again t' usr' ht' hin =>
      by_cases ht : t' = t
      · subst ht
        obtain rfl := hmine ht'
        exact .invalid (Heap.free_twice_ne hin)
      · exact .again t' usr' (by rwa [hother t' ht]) (Heap.freed_subset_free hin)

theorem registSession_threads {usrName passwd : CString}
    (hs : registSession t h usrName passwd s = some s') (hidle : s.threads t = .idle) :
    (∃ pc, s'.threads = Function.update s.threads t pc) ∧ s'.heap.invalid = s.heap.invalid ∧
      s'.heap.freed = s.heap.freed ∧ s.heap.allocated ≤ s'.heap.allocated ∧
      s'.highTempDetectionHead = s.highTempDetectionHead := by
  unfold registSession at hs
  dsimp only at hs
  split at hs
  · obtain rfl := Option.some.inj hs
    exact ⟨⟨.idle, by rw [← hidle, Function.update_eq_self]; rfl⟩, rfl, rfl, Nat.le_refl _, rfl⟩
  · obtain ⟨registInfo, -, rfl⟩ := Option.map_eq_some_iff.1 hs
    exact ⟨⟨_, rfl⟩, rfl, rfl, Nat.le_succ _, rfl⟩

theorem adpRegisterhighTempHandle_frame (hs : adpRegisterhighTempHandle h usr s = some s') :
    s'.threads = s.threads ∧ s'.heap = s.heap ∧
      s.highTempDetectionHead ⊆ s'.highTempDetectionHead := by
  unfold adpRegisterhighTempHandle at hs
  split at hs
  · obtain rfl := Option.some.inj hs
    exact ⟨rfl, rfl, List.Subset.refl _⟩
  · split at hs
    · cases hs
    · obtain rfl := Option.some.inj hs
      exact ⟨rfl, rfl, List.subset_append_left _ _⟩

/-- Whatever the next step is, a logout that goes wrong still does. -/
theorem ListenerState.Debt.step {e : ListenerEvent} (hd : s.Debt) (hs : ListenerStep s e s') :
    s'.Debt := by
  cases hs.move with
  | quiet hthreads hheap _ hhead _ _ => exact hd.keep hthreads hheap hhead
  | regist hidle hreg =>
      obtain ⟨⟨pc, hthreads⟩, hinvalid, hfreed, hallocated, hhead⟩ :=
        registSession_threads hreg hidle
      exact hd.other hthreads (by simp [hidle]) hinvalid hfreed hallocated fun _ hp => hhead ▸ hp
  | @register t h usr s₁ hpc hreg =>
      obtain ⟨hthreads, hheap, hhead⟩ := adpRegisterhighTempHandle_frame hreg
      exact hd.other (t := t) (congrArg (Function.update · t _) hthreads) (by simp [hpc])
        (congrArg Heap.invalid hheap) (congrArg Heap.freed hheap)
        (Nat.le_of_eq (congrArg Heap.allocated hheap.symm)) hhead
  | skip hpc => exact hd.pass rfl (by simp [hpc]) rfl rfl
  | makeUsrID hpc => exact hd.pass rfl (by simp [hpc]) rfl rfl
  | addHandle hpc => exact hd.pass rfl (by simp [hpc]) rfl rfl
  | found hidle _ => exact hd.pass rfl (by simp [hidle]) rfl rfl
  | @unlink t h usr _ _ => exact .interior t h usr (Function.update_self _ _ _)
  | absent hpc hmem => exact hd.stage hpc (by decide) (fun _ => hmem) rfl rfl rfl
  | freeRegisterHandle _ => exact .invalid (Heap.free_interior_ne offsetHighTempHandle_ne)
  | delHandle hpc => exact hd.stage hpc (by decide) (fun heq => nomatch heq) rfl rfl rfl
  | freeUsr hpc => exact hd.freeUsr hpc
  | initNoAuthor hpc => exact hd.pass rfl (by simp [hpc]) rfl rfl

theorem ListenerInv.debt_of_found (hi : ListenerInv s) (hidle : s.threads t = .idle)
    (hfound : s.getUsrRegistInfo (s.handles h).usrID = some usr)
    (hplain : ¬ PlainLogout s (.unRegist t h)) : (s.setThread t (.logout .found h usr)).Debt := by
  have hlive := hi.kept usr (mem_of_lookup hfound)
  have hstart : (s.setThread t (.logout .found h usr)).threads t = .logout .found h usr :=
    Function.update_self _ _ _
  cases hfun : (s.records usr).highTempFun with
  | some fn =>
      refine .listed t h usr hstart ((hi.entry _).2 ⟨usr, rfl, hlive, ?_⟩)
      rw [hfun]
      rfl
  | none =>
      -- then somebody else is logging the session out
      have hother : ∃ t', (s.threads t').LogsOut usr := by
        by_contra halone
        refine hplain fun usr' hfound' => ?_
        obtain rfl := Option.some.inj (hfound.symm.trans hfound')
        exact ⟨hfun, fun t' ht' => halone ⟨t', ht'⟩⟩
      obtain ⟨t', ht'⟩ := hother
      have hne : t' ≠ t := by
        rintro rfl
        rw [hidle] at ht'
        exact ht'
      refine .twice t t' usr hne.symm hlive.1 (by rw [hstart]; rfl) ?_
      show (Function.update s.threads t _ t').LogsOut usr
      rwa [Function.update_of_ne hne]

/-- A logout that is not plain goes wrong. -/
theorem ListenerInv.debt {e : ListenerEvent} (hi : ListenerInv s) (hplain : ¬ PlainLogout s e)
    (hs : ListenerStep s e s') : s'.Debt := by
  cases e with
  | unRegist t h =>
      simp only [ListenerStep, listenerStep] at hs
      split at hs
      · next hidle =>
          split at hs
          · next hnone => exact absurd (fun usr hfound => by cases hnone.symm.trans hfound) hplain
          · next usr hfound =>
              obtain rfl := Option.some.inj hs
              exact hi.debt_of_found hidle hfound hplain
      · cases hs
  | _ => exact absurd trivial hplain

/-- Once all logouts are over, what has gone wrong is a `free`. -/
theorem ListenerState.ListenersSound.not_debt (hsound : s.ListenersSound)
    (hover : ∀ t usr, ¬ (s.threads t).LogsOut usr) : ¬ s.Debt := by
  intro hd
  have hstage : ∀ {t stage h usr}, s.threads t ≠ .logout stage h usr := by
    intro t stage h usr hpc
    exact hover t usr (by rw [hpc]; rfl)
  cases hd with
  | invalid hinvalid => exact hinvalid hsound.owned
  | interior t h usr hpc => exact hstage hpc
  | listed t h usr hpc _ => exact hstage hpc
  | twice t t' usr _ _ hpc _ => exact hover t usr hpc
  | again t usr hpc _ => exact hover t usr hpc

/-! ## Runs -/

/-- **Listeners.** In a run whose logouts are all plain, the list holds one entry for each session with
    a callback, every record is released once and through its own address, and no callback is called in
    a record that is released. And a run that comes out so, with no logout under way, has had plain
    logouts only. -/
theorem listenersSound_plain {usrs : List UsrInfo} {handles : HandlePtr → ListenerHandle}
    {records : ℕ → ListenerRecord} {tr : List ListenerEvent} {s : ListenerState} :
    (Run (stepWhen PlainLogout ListenerStep) (.init usrs handles records) tr s →
        s.ListenersSound) ∧
      (Run ListenerStep (.init usrs handles records) tr s →
        (∀ t usr, ¬ (s.threads t).LogsOut usr) → s.ListenersSound →
        Run (stepWhen PlainLogout ListenerStep) (.init usrs handles records) tr s) := by
  have h0 := listenerInv_init usrs handles records
  constructor
  · intro hrun
    have hi := hrun.stateInvariant ListenerInv h0 fun s e s' hi hs => hi.step hs.1 hs.2
    exact hi.sound
  · intro hrun hover hsound
    exact hrun.meets ListenerInv ListenerState.Debt h0 (fun _ _ _ hi hc hs => hi.step hc hs)
      (fun _ _ _ hi hc hs => hi.debt hc hs) (fun _ _ _ hd hs => hd.step hs)
      (hsound.not_debt hover)

/-! ## Concrete logins -/

/-- Thread `0` logs Alice in on a handle. -/
def listenerLogin (h : HandlePtr) (n : ℕ) : List ListenerEvent :=
  [.regist 0 h (letter 97) (letter 97), .registerHighTemp 0, .makeUsrID 0 n, .addHandle 0]

/-- Alice is logged in with a callback on handle `0` and without one on handle `1`, and an alarm is
    being passed on. -/
def alarmAfterLogins : List ListenerEvent :=
  .setHighTempFun 0 (some 7) :: listenerLogin 0 1 ++ listenerLogin 1 2 ++ [.postLoop]

/-- The rest of a logout while the alarm is passed on. -/
def logoutDuringAlarm : List ListenerEvent :=
  [.callback, .endLoop, .unRegisterHighTemp 0, .delHandle 0, .freeUsr 0, .initNoAuthor 0]

def clearHandles : HandlePtr → ListenerHandle := fun _ => ⟨⟨0, snprintf _ (.ofBuffer []), ∅⟩, none⟩

def clearRecords : ℕ → ListenerRecord := fun _ => ⟨⟨0, alice⟩, none⟩

/-- No step but the search of a logout needs to be plain. -/
def ListenerEvent.searches : ListenerEvent → Bool
  | .unRegist _ _ => true
  | _ => false

theorem plainLogout_of_not_searches {e : ListenerEvent} (he : e.searches = false) :
    PlainLogout s e := by
  cases e with
  | unRegist t h => cases he
  | _ => trivial

/-- One step that is no search, computed. -/
def plainStep (s : ListenerState) (e : ListenerEvent) : Option ListenerState :=
  if e.searches then none else listenerStep s e

theorem plainStep_sound (s : ListenerState) (e : ListenerEvent) (s' : ListenerState)
    (h : plainStep s e = some s') : stepWhen PlainLogout ListenerStep s e s' := by
  unfold plainStep at h
  split at h
  · cases h
  · next he => exact ⟨plainLogout_of_not_searches (Bool.eq_false_iff.2 he), h⟩

/-- What the state a run ends in looks like. -/
theorem of_eval_map {σ τ : Type*} {x : Option σ} {s : σ} {f : σ → τ} {v : τ}
    (hv : x.map f = some v) (h : x = some s) : f s = v := by
  rw [h] at hv
  exact Option.some.inj hv

/-- The session without a callback is logged out during an alarm. -/
theorem listenersSound_during_alarm :
    ∃ s, Run (stepWhen PlainLogout ListenerStep) (.init [alice] clearHandles clearRecords)
        (alarmAfterLogins ++ [.unRegist 0 1] ++ logoutDuringAlarm) s ∧ s.ListenersSound ∧
      (∀ t, s.threads t = .idle) ∧ s.highTempDetectionHead = [highTempHandle 0] ∧
      s.heap.freed = {1} := by
  let x := evalRun plainStep (.init [alice] clearHandles clearRecords) alarmAfterLogins
  let found (s : ListenerState) := s.setThread 0 (.logout .found 1 1)
  let y := x.bind fun s => evalRun plainStep (found s) logoutDuringAlarm
  obtain ⟨s, hs⟩ : ∃ s, x = some s := Option.isSome_iff_exists.1 rfl
  have hidle : ∀ t, s.threads t = .idle := by
    intro t
    have hx : x.map (·.threads t) = some .idle := by cases t <;> rfl
    exact of_eval_map (f := fun s : ListenerState => s.threads t) hx hs
  have hsearch : s.getUsrRegistInfo (s.handles 1).usrID = some 1 :=
    of_eval_map (f := fun s => s.getUsrRegistInfo (s.handles 1).usrID) (x := x) rfl hs
  have hfun : (s.records 1).highTempFun = none :=
    of_eval_map (f := fun s => (s.records 1).highTempFun) (x := x) rfl hs
  have hplain : PlainLogout s (.unRegist 0 1) := by
    intro usr husr
    obtain rfl := Option.some.inj (hsearch.symm.trans husr)
    refine ⟨hfun, fun t ht => ?_⟩
    rw [hidle t] at ht
    exact ht
  have hstep : ListenerStep s (.unRegist 0 1) (found s) := by
    simp only [ListenerStep, listenerStep, hidle, hsearch]
    rfl
  obtain ⟨s', hs'⟩ : ∃ s', y = some s' := Option.isSome_iff_exists.1 rfl
  have hend : evalRun plainStep (found s) logoutDuringAlarm = some s' := by
    rw [← hs']
    show _ = x.bind _
    rw [hs, Option.bind_some]
  have hrun := ((Run.of_eval plainStep_sound hs).snoc ⟨hplain, hstep⟩).append
    (Run.of_eval plainStep_sound hend)
  have hidle' : ∀ t, s'.threads t = .idle := by
    intro t
    have hy : y.map (·.threads t) = some .idle := by cases t <;> rfl
    exact of_eval_map (f := fun s : ListenerState => s.threads t) hy hs'
  exact ⟨s', hrun, listenersSound_plain.1 hrun, hidle',
    of_eval_map (f := (·.highTempDetectionHead)) (x := y) rfl hs',
    of_eval_map (f := (·.heap.freed)) (x := y) rfl hs'⟩

/-- Alice logs in with a callback and out again. -/
def listenerLoginLogout : List ListenerEvent :=
  .setHighTempFun 0 (some 7) :: listenerLogin 0 1 ++ [.unRegist 0 0, .unRegisterHighTemp 0,
    .freeRegisterHandle 0, .delHandle 0, .freeUsr 0, .initNoAuthor 0]

/-- Her logout releases the member before it releases the record. -/
theorem listener_freed_inside :
    ∃ s, Run ListenerStep (.init [alice] clearHandles clearRecords) listenerLoginLogout s ∧
      s.heap.invalid = [highTempHandle 0] ∧ s.heap.freed = {0} ∧ ¬ s.ListenersSound := by
  obtain ⟨s, hrun, hinvalid, hfreed⟩ : ∃ s, Run ListenerStep
      (.init [alice] clearHandles clearRecords) listenerLoginLogout s ∧
      s.heap.invalid = [highTempHandle 0] ∧ s.heap.freed = {0} :=
    Run.exists_of_eval (f := listenerStep) (fun _ _ _ => id) (by decide)
  refine ⟨s, hrun, hinvalid, hfreed, fun hsound => ?_⟩
  rw [hsound.owned] at hinvalid
  cases hinvalid

end SmartPlat.Adp
