import SmartPlat.Adp.HighTemp
import SmartPlat.Adp.Proofs.HandleRights

set_option autoImplicit false

/-! # What plain logouts keep

A session without a callback is in no list of listeners, so its logout releases nothing but the record.
As long as only such sessions are logged out, and each by one thread at a time, every record is in one
place: in the list of sessions, in the hands of one login or logout, or released. A record is in the
list of listeners exactly when it has a callback. -/

namespace SmartPlat.Adp

open SmartPlat.Lib SmartPlat.UsrManage

variable {s s' : ListenerState} {t : ℕ} {pc : ListenerPc} {h : HandlePtr} {usr : ℕ}

theorem highTempHandle_inj {usr usr' : ℕ} (h : highTempHandle usr = highTempHandle usr') :
    usr = usr' := congrArg Pointer.block h

/-- **Plain logouts.** The session that is logged out has no callback, and nobody else is logging it
    out. -/
def PlainLogout (s : ListenerState) : ListenerEvent → Prop
  | .unRegist _ h => ∀ usr, s.getUsrRegistInfo (s.handles h).usrID = some usr →
      (s.records usr).highTempFun = none ∧ ∀ t, ¬ (s.threads t).LogsOut usr
  | _ => True

/-! ## What a step does -/

/-- The outcomes of a step. -/
inductive ListenerMove (s : ListenerState) : ListenerEvent → ListenerState → Prop
  /-- No record, no list and no thread of these changes. -/
  | quiet {e : ListenerEvent} {s' : ListenerState} (hthreads : s'.threads = s.threads)
    (hheap : s'.heap = s.heap) (hlist : s'.listUsrRegistHead = s.listUsrRegistHead)
    (hhead : s'.highTempDetectionHead = s.highTempDetectionHead)
    (hrecords : s'.records = s.records)
    (hdb : ∀ l, s'.database = some l → l = s.highTempDetectionHead ∨
      ∃ l', s.database = some l' ∧ l ⊆ l') : ListenerMove s e s'
  | regist {t : ℕ} {h : HandlePtr} {usrName passwd : CString} {s' : ListenerState}
    (hidle : s.threads t = .idle) (hs : registSession t h usrName passwd s = some s') :
    ListenerMove s (.regist t h usrName passwd) s'
  | register {t : ℕ} {h : HandlePtr} {usr : ℕ} {s' : ListenerState}
    (hpc : s.threads t = .login .allocated h usr)
    (hs : adpRegisterhighTempHandle h usr s = some s') :
    ListenerMove s (.registerHighTemp t) (s'.setThread t (.login .registered h usr))
  /-- The level of the user registers nothing. -/
  | skip {t : ℕ} {h : HandlePtr} {usr : ℕ} (hpc : s.threads t = .login .allocated h usr) :
    ListenerMove s (.registerHighTemp t) (s.setThread t (.login .registered h usr))
  | makeUsrID {t n : ℕ} {h : HandlePtr} {usr usrID : ℕ}
    (hpc : s.threads t = .login .registered h usr) :
    ListenerMove s (.makeUsrID t n) (((s.setHandle h { s.handles h with usrID }).setRecord usr
      { s.records usr with apiHandle := h }).setThread t (.login .composed h usr))
  | addHandle {t : ℕ} {h : HandlePtr} {usr : ℕ} (hpc : s.threads t = .login .composed h usr) :
    ListenerMove s (.addHandle t)
      ({ s with listUsrRegistHead := s.listUsrRegistHead ++ [usr] }.setThread t .idle)
  | found {t : ℕ} {h : HandlePtr} {usr : ℕ} (hidle : s.threads t = .idle)
    (hfound : s.getUsrRegistInfo (s.handles h).usrID = some usr) :
    ListenerMove s (.unRegist t h) (s.setThread t (.logout .found h usr))
  | unlink {t : ℕ} {h : HandlePtr} {usr : ℕ} (hpc : s.threads t = .logout .found h usr)
    (hmem : highTempHandle usr ∈ s.highTempDetectionHead) :
    ListenerMove s (.unRegisterHighTemp t)
      ({ s with highTempDetectionHead :=
          s.highTempDetectionHead.erase (highTempHandle usr) }.setThread t
        (.logout .unlinked h usr))
  | absent {t : ℕ} {h : HandlePtr} {usr : ℕ} (hpc : s.threads t = .logout .found h usr)
    (hmem : highTempHandle usr ∉ s.highTempDetectionHead) :
    ListenerMove s (.unRegisterHighTemp t) (s.setThread t (.logout .unregistered h usr))
  | freeRegisterHandle {t : ℕ} {h : HandlePtr} {usr : ℕ}
    (hpc : s.threads t = .logout .unlinked h usr) :
    ListenerMove s (.freeRegisterHandle t)
      ({ s with heap := s.heap.free (highTempHandle usr) }.setThread t (.logout .unregistered h usr))
  | delHandle {t : ℕ} {h : HandlePtr} {usr : ℕ} (hpc : s.threads t = .logout .unregistered h usr) :
    ListenerMove s (.delHandle t)
      ({ s with listUsrRegistHead := s.listUsrRegistHead.erase usr }.setThread t
        (.logout .removed h usr))
  | freeUsr {t : ℕ} {h : HandlePtr} {usr : ℕ} (hpc : s.threads t = .logout .removed h usr) :
    ListenerMove s (.freeUsr t) ({ s with heap := s.heap.free ⟨usr, 0⟩ }.setThread t (.cleared h))
  | initNoAuthor {t : ℕ} {h : HandlePtr} (hpc : s.threads t = .cleared h) :
    ListenerMove s (.initNoAuthor t) ((s.initNoAuthor h).setThread t .idle)

/-- A step that leaves the database thread where it is. -/
theorem visits_refl (s : ListenerState) (l : List Pointer) (hl : s.database = some l) :
    l = s.highTempDetectionHead ∨ ∃ l', s.database = some l' ∧ l ⊆ l' :=
  .inr ⟨l, hl, List.Subset.refl l⟩

theorem ListenerStep.move {e : ListenerEvent} (hs : ListenerStep s e s') : ListenerMove s e s' := by
  cases e with
  | users usrs =>
      obtain rfl := Option.some.inj hs
      exact .quiet rfl rfl rfl rfl rfl (visits_refl s)
  | setHighTempFun h fn =>
      obtain rfl := Option.some.inj hs
      exact .quiet rfl rfl rfl rfl rfl (visits_refl s)
  | regist t h usrName passwd =>
      simp only [ListenerStep, listenerStep] at hs
      split at hs
      · next hidle => exact .regist hidle hs
      · cases hs
  | registerHighTemp t =>
      simp only [ListenerStep, listenerStep] at hs
      split at hs
      · next h usr hpc =>
          split at hs
          · obtain ⟨s₁, hs₁, rfl⟩ := Option.map_eq_some_iff.1 hs
            exact .register hpc hs₁
          · obtain rfl := Option.some.inj hs
            exact .skip hpc
      · cases hs
  | makeUsrID t n =>
      simp only [ListenerStep, listenerStep] at hs
      split at hs
      · next hpc =>
          obtain rfl := Option.some.inj hs
          exact .makeUsrID hpc
      · cases hs
  | addHandle t =>
      simp only [ListenerStep, listenerStep] at hs
      split at hs
      · next hpc =>
          obtain rfl := Option.some.inj hs
          exact .addHandle hpc
      · cases hs
  | unRegist t h =>
      simp only [ListenerStep, listenerStep] at hs
      split at hs
      · next hidle =>
          split at hs
          · obtain rfl := Option.some.inj hs
            exact .quiet rfl rfl rfl rfl rfl (visits_refl s)
          · next hfound =>
              obtain rfl := Option.some.inj hs
              exact .found hidle hfound
      · cases hs
  | unRegisterHighTemp t =>
      simp only [ListenerStep, listenerStep] at hs
      split at hs
      · next hpc =>
          split at hs
          · cases hs
          · split at hs
            · next hmem =>
                obtain rfl := Option.some.inj hs
                exact .unlink hpc hmem
            · next hmem =>
                obtain rfl := Option.some.inj hs
                exact .absent hpc hmem
      · cases hs
  | freeRegisterHandle t =>
      simp only [ListenerStep, listenerStep] at hs
      split at hs
      · next hpc =>
          obtain rfl := Option.some.inj hs
          exact .freeRegisterHandle hpc
      · cases hs
  | delHandle t =>
      simp only [ListenerStep, listenerStep] at hs
      split at hs
      · next hpc =>
          obtain rfl := Option.some.inj hs
          exact .delHandle hpc
      · cases hs
  | freeUsr t =>
      simp only [ListenerStep, listenerStep] at hs
      split at hs
      · next hpc =>
          obtain rfl := Option.some.inj hs
          exact .freeUsr hpc
      · cases hs
  | initNoAuthor t =>
      simp only [ListenerStep, listenerStep] at hs
      split at hs
      · next hpc =>
          obtain rfl := Option.some.inj hs
          exact .initNoAuthor hpc
      · cases hs
  | postLoop =>
      simp only [ListenerStep, listenerStep] at hs
      split at hs
      · obtain rfl := Option.some.inj hs
        exact .quiet rfl rfl rfl rfl rfl fun l hl => .inl (Option.some.inj hl).symm
      · cases hs
  | callback =>
      simp only [ListenerStep, listenerStep] at hs
      split at hs
      · next p rest hdb =>
          obtain rfl := Option.some.inj hs
          refine .quiet rfl rfl rfl rfl rfl fun l hl => .inr ⟨p :: rest, hdb, ?_⟩
          obtain rfl := Option.some.inj hl
          exact List.subset_cons_self p rest
      · cases hs
  | endLoop =>
      simp only [ListenerStep, listenerStep] at hs
      split at hs
      · obtain rfl := Option.some.inj hs
        exact .quiet rfl rfl rfl rfl rfl fun l hl => nomatch hl
      · cases hs

/-! ## The invariant -/

/-- The lists and the records. -/
structure StoreInv (s : ListenerState) : Prop where
  bounded : s.heap.Bounded
  owned : s.heap.invalid = []
  nodup : s.listUsrRegistHead.Nodup
  kept : ∀ usr ∈ s.listUsrRegistHead, s.heap.Live usr
  once : s.highTempDetectionHead.Nodup
  entry : ∀ p, p ∈ s.highTempDetectionHead ↔
    ∃ usr, p = highTempHandle usr ∧ s.heap.Live usr ∧ (s.records usr).highTempFun.isSome
  visiting : ∀ l, s.database = some l → l ⊆ s.highTempDetectionHead

/-- What a thread knows of the record in its hands. -/
def ListenerPc.Ok (s : ListenerState) : ListenerPc → Prop
  | .idle | .cleared _ => True
  | .login .allocated _ usr => s.heap.Live usr ∧ usr ∉ s.listUsrRegistHead ∧
      (s.records usr).highTempFun = none
  | .login _ _ usr => s.heap.Live usr ∧ usr ∉ s.listUsrRegistHead
  | .logout .unlinked _ _ => False
  | .logout .removed _ usr => s.heap.Live usr ∧ usr ∉ s.listUsrRegistHead ∧
      (s.records usr).highTempFun = none
  | .logout _ _ usr => s.heap.Live usr ∧ (s.records usr).highTempFun = none

structure ListenerInv (s : ListenerState) : Prop extends StoreInv s where
  threads : ∀ t, (s.threads t).Ok s
  exclusive : ∀ t t' usr, t ≠ t' → (s.threads t).usr = some usr → (s.threads t').usr ≠ some usr
  accounted : ∀ usr < s.heap.allocated, usr ∈ s.heap.freed ∨ usr ∈ s.listUsrRegistHead ∨
    ∃ t, (s.threads t).usr = some usr

theorem ListenerPc.Ok.live (ho : pc.Ok s) (husr : pc.usr = some usr) : s.heap.Live usr := by
  cases pc with
  | idle => cases husr
  | cleared h => cases husr
  | login stage h usr' =>
      obtain rfl := Option.some.inj husr
      cases stage <;> exact ho.1
  | logout stage h usr' =>
      obtain rfl := Option.some.inj husr
      cases stage with
      | unlinked => exact ho.elim
      | found => exact ho.1
      | unregistered => exact ho.1
      | removed => exact ho.1

/-- A record in the list is in no other hands than those of a logout. -/
theorem ListenerPc.Ok.logsOut (ho : pc.Ok s) (husr : pc.usr = some usr)
    (hmem : usr ∈ s.listUsrRegistHead) : pc.LogsOut usr := by
  cases pc with
  | idle => cases husr
  | cleared h => cases husr
  | login stage h usr' =>
      obtain rfl := Option.some.inj husr
      cases stage with
      | allocated => exact absurd hmem ho.2.1
      | registered => exact absurd hmem ho.2
      | composed => exact absurd hmem ho.2
  | logout stage h usr' => exact Option.some.inj husr

/-- What a thread knows does not depend on the records in other hands. -/
theorem ListenerPc.Ok.frame (ho : pc.Ok s)
    (hlive : ∀ usr, pc.usr = some usr → s.heap.Live usr → s'.heap.Live usr)
    (hlist : ∀ usr, pc.usr = some usr → usr ∉ s.listUsrRegistHead → usr ∉ s'.listUsrRegistHead)
    (hfun : ∀ usr, pc.usr = some usr → (s.records usr).highTempFun = none →
      (s'.records usr).highTempFun = none) : pc.Ok s' := by
  cases pc with
  | idle => trivial
  | cleared h => trivial
  | login stage h usr =>
      cases stage with
      | allocated => exact ⟨hlive usr rfl ho.1, hlist usr rfl ho.2.1, hfun usr rfl ho.2.2⟩
      | registered => exact ⟨hlive usr rfl ho.1, hlist usr rfl ho.2⟩
      | composed => exact ⟨hlive usr rfl ho.1, hlist usr rfl ho.2⟩
  | logout stage h usr =>
      cases stage with
      | found => exact ⟨hlive usr rfl ho.1, hfun usr rfl ho.2⟩
      | unlinked => exact ho.elim
      | unregistered => exact ⟨hlive usr rfl ho.1, hfun usr rfl ho.2⟩
      | removed => exact ⟨hlive usr rfl ho.1, hlist usr rfl ho.2.1, hfun usr rfl ho.2.2⟩

theorem StoreInv.congr (hi : StoreInv s) (hheap : s'.heap = s.heap)
    (hlist : s'.listUsrRegistHead = s.listUsrRegistHead)
    (hhead : s'.highTempDetectionHead = s.highTempDetectionHead) (hdb : s'.database = s.database)
    (hfun : ∀ usr, (s'.records usr).highTempFun = (s.records usr).highTempFun) : StoreInv s' where
  bounded := hheap ▸ hi.bounded
  owned := hheap ▸ hi.owned
  nodup := hlist ▸ hi.nodup
  kept := by
    rw [hheap, hlist]
    exact hi.kept
  once := hhead ▸ hi.once
  entry p := by
    rw [hheap, hhead, hi.entry p]
    simp only [hfun]
  visiting := by
    rw [hdb, hhead]
    exact hi.visiting

theorem ListenerInv.ok (hi : ListenerInv s) (hpc : s.threads t = pc) : pc.Ok s :=
  hpc ▸ hi.threads t

/-- The record a thread has, or another one's. -/
theorem ListenerInv.elsewhere (hi : ListenerInv s) (t : ℕ) (hlt : usr < s.heap.allocated) :
    usr ∈ s.heap.freed ∨ usr ∈ s.listUsrRegistHead ∨ (s.threads t).usr = some usr ∨
      ∃ t' ≠ t, (s.threads t').usr = some usr := by
  rcases hi.accounted usr hlt with hfreed | hmem | ⟨t', ht'⟩
  · exact .inl hfreed
  · exact .inr (.inl hmem)
  · rcases eq_or_ne t' t with rfl | hne
    · exact .inr (.inr (.inl ht'))
    · exact .inr (.inr (.inr ⟨t', hne, ht'⟩))

/-- Two threads never have the same record. -/
theorem ListenerInv.ne_of_held (hi : ListenerInv s) {usr' t' : ℕ} (hpc : (s.threads t).usr = some usr)
    (hne : t' ≠ t) (hheld : (s.threads t').usr = some usr') : usr' ≠ usr := by
  rintro rfl
  exact hi.exclusive t' t usr' hne hheld hpc

/-- **One thread moves.** The lists and records are in order after the step, the thread knows what it
    should, and the records of other threads are as they were. -/
theorem ListenerInv.move (hi : ListenerInv s) (pc : ListenerPc)
    (hthreads : s'.threads = Function.update s.threads t pc) (hstore : StoreInv s') (hok : pc.Ok s')
    (hframe : ∀ t' ≠ t, ∀ usr, (s.threads t').usr = some usr →
      (s.heap.Live usr → s'.heap.Live usr) ∧
      (usr ∉ s.listUsrRegistHead → usr ∉ s'.listUsrRegistHead) ∧
      ((s.records usr).highTempFun = none → (s'.records usr).highTempFun = none))
    (hown : ∀ usr, pc.usr = some usr →
      (s.threads t).usr = some usr ∨ ∀ t', (s.threads t').usr ≠ some usr)
    (haccounted : ∀ usr < s'.heap.allocated, usr ∈ s'.heap.freed ∨ usr ∈ s'.listUsrRegistHead ∨
      pc.usr = some usr ∨ ∃ t' ≠ t, (s.threads t').usr = some usr) : ListenerInv s' where
  toStoreInv := hstore
  threads t' := by
    rw [hthreads]
    by_cases ht : t' = t
    · rw [ht, Function.update_self]
      exact hok
    · rw [Function.update_of_ne ht]
      exact (hi.threads t').frame (fun usr husr => (hframe t' ht usr husr).1)
        (fun usr husr => (hframe t' ht usr husr).2.1) fun usr husr => (hframe t' ht usr husr).2.2
  exclusive := by
    have hother : ∀ t' ≠ t, ∀ usr, pc.usr = some usr → (s.threads t').usr ≠ some usr := by
      intro t' hne usr husr
      rcases hown usr husr with ht | hfree
      · exact hi.exclusive t t' usr hne.symm ht
      · exact hfree t'
    intro a b usr hab ha hb
    rw [hthreads] at ha hb
    by_cases hat : a = t
    · subst hat
      rw [Function.update_self] at ha
      rw [Function.update_of_ne hab.symm] at hb
      exact hother b hab.symm usr ha hb
    · rw [Function.update_of_ne hat] at ha
      by_cases hbt : b = t
      · subst hbt
        rw [Function.update_self] at hb
        exact hother a hab usr hb ha
      · rw [Function.update_of_ne hbt] at hb
        exact hi.exclusive a b usr hab ha hb
  accounted usr hlt := by
    rw [hthreads]
    rcases haccounted usr hlt with hfreed | hmem | hpc | ⟨t', hne, ht'⟩
    · exact .inl hfreed
    · exact .inr (.inl hmem)
    · exact .inr (.inr ⟨t, by rwa [Function.update_self]⟩)
    · exact .inr (.inr ⟨t', by rwa [Function.update_of_ne hne]⟩)

theorem highTempFun_update_of_ne {records : ℕ → ListenerRecord} {record : ListenerRecord}
    {usr' : ℕ} (hne : usr' ≠ usr) :
    (Function.update records usr record usr').highTempFun = (records usr').highTempFun := by
  rw [Function.update_of_ne hne]

theorem isSome_update_of_ne {records : ℕ → ListenerRecord} {record : ListenerRecord} {usr' : ℕ}
    (hne : usr' ≠ usr) : (Function.update records usr record usr').highTempFun.isSome =
      (records usr').highTempFun.isSome :=
  congrArg Option.isSome (highTempFun_update_of_ne hne)

theorem highTempFun_update_of_eq {records : ℕ → ListenerRecord} {record : ListenerRecord}
    (hsame : record.highTempFun = (records usr).highTempFun) (usr' : ℕ) :
    (Function.update records usr record usr').highTempFun = (records usr').highTempFun := by
  by_cases hne : usr' = usr
  · rw [hne, Function.update_self, hsame]
  · exact highTempFun_update_of_ne hne

/-! ## What each step does to it -/

/-- A step that changes neither lists nor allocations and keeps the record in the thread's hands. -/
theorem ListenerInv.stay (hi : ListenerInv s) {pc₀ : ListenerPc} (hpc : s.threads t = pc₀)
    (pc : ListenerPc) (hthreads : s'.threads = Function.update s.threads t pc)
    (hheap : s'.heap = s.heap) (hlist : s'.listUsrRegistHead = s.listUsrRegistHead)
    (hhead : s'.highTempDetectionHead = s.highTempDetectionHead) (hdb : s'.database = s.database)
    (hfun : ∀ usr, (s'.records usr).highTempFun = (s.records usr).highTempFun)
    (hok : pc₀.Ok s → pc.Ok s) (husr : pc.usr = pc₀.usr) : ListenerInv s' := by
  have hframe : ∀ usr, (s.heap.Live usr → s'.heap.Live usr) ∧
      (usr ∉ s.listUsrRegistHead → usr ∉ s'.listUsrRegistHead) ∧
      ((s.records usr).highTempFun = none → (s'.records usr).highTempFun = none) := by
    intro usr
    rw [hheap, hlist, hfun usr]
    exact ⟨id, id, id⟩
  have hheld : pc.usr = (s.threads t).usr := husr.trans (congrArg ListenerPc.usr hpc.symm)
  refine hi.move pc hthreads (hi.toStoreInv.congr hheap hlist hhead hdb hfun) ?_
    (fun _ _ usr _ => hframe usr) (fun usr husr => .inl (hheld ▸ husr)) fun usr hlt => ?_
  · exact (hok (hi.ok hpc)).frame (fun usr _ => (hframe usr).1) (fun usr _ => (hframe usr).2.1)
      fun usr _ => (hframe usr).2.2
  · rw [hheap] at hlt
    rw [hheap, hlist, hheld]
    exact hi.elsewhere t hlt

/-- A step of no thread of these that changes neither lists nor allocations. -/
theorem ListenerInv.keep (hi : ListenerInv s) (hthreads : s'.threads = s.threads)
    (hheap : s'.heap = s.heap) (hlist : s'.listUsrRegistHead = s.listUsrRegistHead)
    (hhead : s'.highTempDetectionHead = s.highTempDetectionHead)
    (hrecords : s'.records = s.records)
    (hdb : ∀ l, s'.database = some l → l ⊆ s.highTempDetectionHead) : ListenerInv s' where
  bounded := hheap ▸ hi.bounded
  owned := hheap ▸ hi.owned
  nodup := hlist ▸ hi.nodup
  kept := by
    rw [hheap, hlist]
    exact hi.kept
  once := hhead ▸ hi.once
  entry p := by
    rw [hheap, hhead, hrecords]
    exact hi.entry p
  visiting l hl := hhead ▸ hdb l hl
  threads t := by
    rw [hthreads]
    refine (hi.threads t).frame ?_ ?_ ?_
    · exact fun _ _ hlive => hheap ▸ hlive
    · exact fun _ _ hlist' => hlist ▸ hlist'
    · exact fun _ _ hfun => hrecords ▸ hfun
  exclusive := by
    rw [hthreads]
    exact hi.exclusive
  accounted := by
    rw [hthreads, hheap, hlist]
    exact hi.accounted

/-- A new record is in no list and has no callback. -/
theorem ListenerInv.regist (hi : ListenerInv s) {usrName passwd : CString}
    (hidle : s.threads t = .idle) (hs : registSession t h usrName passwd s = some s') :
    ListenerInv s' := by
  unfold registSession at hs
  dsimp only at hs
  split at hs
  · obtain rfl := Option.some.inj hs
    exact hi.keep rfl rfl rfl rfl rfl hi.visiting
  · obtain ⟨registInfo, -, rfl⟩ := Option.map_eq_some_iff.1 hs
    have hnew : ∀ usr, s.heap.Live usr → usr ≠ s.heap.next.block := fun usr => Heap.Live.ne_next
    have hlist : s.heap.next.block ∉ s.listUsrRegistHead := fun hmem => hnew _ (hi.kept _ hmem) rfl
    refine hi.move (.login .allocated h s.heap.next.block) rfl ?_ ?_ ?_ ?_ ?_
    · refine ⟨hi.bounded.malloc, hi.owned, hi.nodup, fun usr hmem => (hi.kept usr hmem).malloc,
        hi.once, fun p => (hi.entry p).trans ⟨?_, ?_⟩, hi.visiting⟩
      · rintro ⟨usr, rfl, hlive, hfun⟩
        exact ⟨usr, rfl, hlive.malloc, (isSome_update_of_ne (hnew usr hlive)).trans hfun⟩
      · rintro ⟨usr, rfl, hlive, hfun⟩
        rcases (Heap.live_malloc_iff hi.bounded).1 hlive with hlive | rfl
        · exact ⟨usr, rfl, hlive, (isSome_update_of_ne (hnew usr hlive)).symm.trans hfun⟩
        · simp [ListenerState.setThread, ListenerState.setHandle, ListenerState.setRecord] at hfun
    · exact ⟨Heap.live_next hi.bounded, hlist, congrArg _ (Function.update_self _ _ _)⟩
    · intro t' _ usr husr
      have hne := hnew usr ((hi.threads t').live husr)
      exact ⟨fun hlive => hlive.malloc, id, fun hfun => (highTempFun_update_of_ne hne).trans hfun⟩
    · intro usr husr
      obtain rfl := Option.some.inj husr
      exact .inr fun t' ht' => hnew _ ((hi.threads t').live ht') rfl
    · intro usr hlt
      rcases Nat.lt_succ_iff_lt_or_eq.1 hlt with hlt | heq
      · rcases hi.elsewhere t hlt with hfreed | hmem | hheld | hother
        · exact .inl hfreed
        · exact .inr (.inl hmem)
        · rw [hidle] at hheld
          cases hheld
        · exact .inr (.inr (.inr hother))
      · exact .inr (.inr (.inl (congrArg some heq.symm)))

/-- A session without a callback is in no list of listeners. -/
theorem ListenerInv.not_listed (hi : ListenerInv s) (hnone : (s.records usr).highTempFun = none) :
    highTempHandle usr ∉ s.highTempDetectionHead := by
  intro hmem
  obtain ⟨usr', heq, -, hfun⟩ := (hi.entry _).1 hmem
  obtain rfl := highTempHandle_inj heq
  simp [hnone] at hfun

/-- The record enters the list of listeners with its callback. -/
theorem ListenerInv.register (hi : ListenerInv s) (hpc : s.threads t = .login .allocated h usr)
    (hs : adpRegisterhighTempHandle h usr s = some s') :
    ListenerInv (s'.setThread t (.login .registered h usr)) := by
  obtain ⟨hlive, hlist, hnone⟩ := hi.ok hpc
  have hheld : (s.threads t).usr = some usr := congrArg ListenerPc.usr hpc
  unfold adpRegisterhighTempHandle at hs
  split at hs
  · obtain rfl := Option.some.inj hs
    exact hi.stay hpc (.login .registered h usr) rfl rfl rfl rfl rfl (fun _ => rfl)
      (fun _ => ⟨hlive, hlist⟩) rfl
  · next fn _ =>
      split at hs
      · cases hs
      · next hdb =>
          obtain rfl := Option.some.inj hs
          have hfresh := hi.not_listed hnone
          refine hi.move (.login .registered h usr) rfl ?_ ⟨hlive, hlist⟩ ?_ ?_ ?_
          · refine ⟨hi.bounded, hi.owned, hi.nodup, hi.kept, ?_, fun p => ?_, ?_⟩
            · exact List.concat_eq_append ▸ hi.once.concat hfresh
            · refine List.mem_append.trans ⟨?_, ?_⟩
              · rintro (hmem | hmem)
                · obtain ⟨usr', rfl, hlive', hfun⟩ := (hi.entry p).1 hmem
                  have hne : usr' ≠ usr := by
                    rintro rfl
                    exact hfresh hmem
                  exact ⟨usr', rfl, hlive', (isSome_update_of_ne hne).trans hfun⟩
                · refine ⟨usr, List.mem_singleton.1 hmem, hlive, ?_⟩
                  simp [ListenerState.setThread, ListenerState.setRecord]
              · rintro ⟨usr', rfl, hlive', hfun⟩
                by_cases hne : usr' = usr
                · exact .inr (List.mem_singleton.2 (congrArg _ hne))
                · exact .inl ((hi.entry _).2
                    ⟨usr', rfl, hlive', (isSome_update_of_ne hne).symm.trans hfun⟩)
            · intro l hl
              exact absurd (Option.isSome_iff_exists.2 ⟨l, hl⟩) hdb
          · intro t' hne usr' husr'
            have hother := hi.ne_of_held hheld hne husr'
            exact ⟨id, id, fun hfun => (highTempFun_update_of_ne hother).trans hfun⟩
          · exact fun usr' husr' => .inl (hheld.trans husr')
          · intro usr' hlt
            have hwhere := hi.elsewhere t hlt
            rwa [hheld] at hwhere

theorem ListenerInv.makeUsrID (hi : ListenerInv s) (hpc : s.threads t = .login .registered h usr)
    (usrID : ℕ) : ListenerInv (((s.setHandle h { s.handles h with usrID }).setRecord usr
      { s.records usr with apiHandle := h }).setThread t (.login .composed h usr)) := by
  exact hi.stay hpc (.login .composed h usr) rfl rfl rfl rfl rfl (highTempFun_update_of_eq rfl)
    id rfl

theorem ListenerInv.addHandle (hi : ListenerInv s) (hpc : s.threads t = .login .composed h usr) :
    ListenerInv ({ s with listUsrRegistHead := s.listUsrRegistHead ++ [usr] }.setThread t .idle) := by
  obtain ⟨hlive, hlist⟩ := hi.ok hpc
  have hheld : (s.threads t).usr = some usr := congrArg ListenerPc.usr hpc
  have hmem : ∀ usr', usr' ∈ s.listUsrRegistHead ++ [usr] ↔
      usr' ∈ s.listUsrRegistHead ∨ usr' = usr := by simp
  refine hi.move .idle rfl ?_ trivial ?_ ?_ ?_
  · refine ⟨hi.bounded, hi.owned, ?_, fun usr' hin => ?_, hi.once, hi.entry, hi.visiting⟩
    · exact List.concat_eq_append ▸ hi.nodup.concat hlist
    · rcases (hmem usr').1 hin with hin | rfl
      · exact hi.kept usr' hin
      · exact hlive
  · intro t' hne usr' husr'
    have hother := hi.ne_of_held hheld hne husr'
    exact ⟨id, fun hout hin => ((hmem usr').1 hin).elim hout hother, id⟩
  · exact fun _ husr => nomatch husr
  · intro usr' hlt
    rcases hi.elsewhere t hlt with hfreed | hin | hown | hother
    · exact .inl hfreed
    · exact .inr (.inl ((hmem usr').2 (.inl hin)))
    · rw [hheld] at hown
      exact .inr (.inl ((hmem usr').2 (.inr (Option.some.inj hown).symm)))
    · exact .inr (.inr (.inr hother))

/-- A plain logout has the record to itself, and finds no listener of it. -/
theorem ListenerInv.unRegist (hi : ListenerInv s) (hidle : s.threads t = .idle)
    (hfound : s.getUsrRegistInfo (s.handles h).usrID = some usr)
    (hplain : PlainLogout s (.unRegist t h)) :
    ListenerInv (s.setThread t (.logout .found h usr)) := by
  obtain ⟨hnone, halone⟩ := hplain usr hfound
  have hmem := mem_of_lookup hfound
  refine hi.move (.logout .found h usr) rfl ?_ ⟨hi.kept usr hmem, hnone⟩
    (fun _ _ _ _ => ⟨id, id, id⟩) ?_ fun usr' hlt => ?_
  · exact hi.toStoreInv.congr rfl rfl rfl rfl fun _ => rfl
  · intro usr' husr'
    obtain rfl := Option.some.inj husr'
    exact .inr fun t' ht' => halone t' ((hi.threads t').logsOut ht' hmem)
  · rcases hi.elsewhere t hlt with hfreed | hin | hown | hother
    · exact .inl hfreed
    · exact .inr (.inl hin)
    · rw [hidle] at hown
      cases hown
    · exact .inr (.inr (.inr hother))

theorem ListenerInv.unRegisterHighTemp (hi : ListenerInv s)
    (hpc : s.threads t = .logout .found h usr) :
    ListenerInv (s.setThread t (.logout .unregistered h usr)) := by
  exact hi.stay hpc (.logout .unregistered h usr) rfl rfl rfl rfl rfl (fun _ => rfl) id rfl

theorem ListenerInv.delHandle (hi : ListenerInv s)
    (hpc : s.threads t = .logout .unregistered h usr) :
    ListenerInv ({ s with listUsrRegistHead := s.listUsrRegistHead.erase usr }.setThread t
      (.logout .removed h usr)) := by
  obtain ⟨hlive, hnone⟩ := hi.ok hpc
  have hheld : (s.threads t).usr = some usr := congrArg ListenerPc.usr hpc
  have hmem : ∀ usr', usr' ∈ s.listUsrRegistHead.erase usr ↔
      usr' ≠ usr ∧ usr' ∈ s.listUsrRegistHead := fun usr' => hi.nodup.mem_erase_iff
  refine hi.move (.logout .removed h usr) rfl ?_ ⟨hlive, ?_, hnone⟩ ?_ ?_ ?_
  · exact ⟨hi.bounded, hi.owned, hi.nodup.erase usr,
      fun usr' hin => hi.kept usr' ((hmem usr').1 hin).2, hi.once, hi.entry, hi.visiting⟩
  · exact fun hin => ((hmem usr).1 hin).1 rfl
  · exact fun _ _ usr' _ => ⟨id, fun hout hin => hout ((hmem usr').1 hin).2, id⟩
  · exact fun usr' husr' => .inl (hheld.trans husr')
  · intro usr' hlt
    rcases hi.elsewhere t hlt with hfreed | hin | hown | hother
    · exact .inl hfreed
    · by_cases hne : usr' = usr
      · exact .inr (.inr (.inl (congrArg some hne.symm)))
      · exact .inr (.inl ((hmem usr').2 ⟨hne, hin⟩))
    · exact .inr (.inr (.inl (hheld.symm.trans hown)))
    · exact .inr (.inr (.inr hother))

/-- The record is released through its own address, once. -/
theorem ListenerInv.freeUsr (hi : ListenerInv s) (hpc : s.threads t = .logout .removed h usr) :
    ListenerInv ({ s with heap := s.heap.free ⟨usr, 0⟩ }.setThread t (.cleared h)) := by
  obtain ⟨hlive, hlist, hnone⟩ := hi.ok hpc
  have hheld : (s.threads t).usr = some usr := congrArg ListenerPc.usr hpc
  have hstill : ∀ usr', (s.heap.free ⟨usr, 0⟩).Live usr' ↔ s.heap.Live usr' ∧ usr' ≠ usr :=
    fun usr' => Heap.live_free_iff hlive
  refine hi.move (.cleared h) rfl ?_ trivial ?_ (fun _ husr => nomatch husr) ?_
  · refine ⟨hi.bounded.free hlive, ?_, hi.nodup, fun usr' hin => ?_, hi.once, fun p => ?_,
      hi.visiting⟩
    · show (s.heap.free ⟨usr, 0⟩).invalid = []
      rw [Heap.free_of_live rfl hlive]
      exact hi.owned
    · exact (hstill usr').2 ⟨hi.kept usr' hin, fun heq => hlist (heq ▸ hin)⟩
    · refine (hi.entry p).trans ⟨?_, ?_⟩
      · rintro ⟨usr', rfl, hlive', hfun⟩
        refine ⟨usr', rfl, (hstill usr').2 ⟨hlive', ?_⟩, hfun⟩
        rintro rfl
        simp [hnone] at hfun
      · rintro ⟨usr', rfl, hlive', hfun⟩
        exact ⟨usr', rfl, ((hstill usr').1 hlive').1, hfun⟩
  · intro t' hne usr' husr'
    exact ⟨fun hlive' => (hstill usr').2 ⟨hlive', hi.ne_of_held hheld hne husr'⟩, id, id⟩
  · intro usr' hlt
    have hfreed : (s.heap.free ⟨usr, 0⟩).freed = insert usr s.heap.freed := by
      rw [Heap.free_of_live rfl hlive]
    have hlt : usr' < s.heap.allocated := Nat.lt_of_lt_of_eq hlt Heap.free_allocated
    rcases hi.elsewhere t hlt with hin | hin | hown | hother
    · exact .inl (hfreed ▸ Finset.mem_insert_of_mem hin)
    · exact .inr (.inl hin)
    · obtain rfl := Option.some.inj (hheld.symm.trans hown)
      exact .inl (hfreed ▸ Finset.mem_insert_self _ _)
    · exact .inr (.inr (.inr hother))

theorem ListenerInv.clear (hi : ListenerInv s) (hpc : s.threads t = .cleared h) :
    ListenerInv ((s.initNoAuthor h).setThread t .idle) :=
  hi.stay hpc .idle rfl rfl rfl rfl rfl (fun _ => rfl) id rfl

/-- Every step that is no logout, or a plain one, keeps lists and records in order. -/
theorem ListenerInv.step {e : ListenerEvent} (hi : ListenerInv s) (hplain : PlainLogout s e)
    (hs : ListenerStep s e s') : ListenerInv s' := by
  cases hs.move with
  | quiet hthreads hheap hlist hhead hrecords hdb =>
      refine hi.keep hthreads hheap hlist hhead hrecords fun l hl => ?_
      rcases hdb l hl with rfl | ⟨l', hl', hsub⟩
      · exact List.Subset.refl _
      · exact List.Subset.trans hsub (hi.visiting l' hl')
  | regist hidle hreg => exact hi.regist hidle hreg
  | register hpc hreg => exact hi.register hpc hreg
  | skip hpc =>
      exact hi.stay hpc _ rfl rfl rfl rfl rfl (fun _ => rfl) (fun ho => ⟨ho.1, ho.2.1⟩) rfl
  | makeUsrID hpc => exact hi.makeUsrID hpc _
  | addHandle hpc => exact hi.addHandle hpc
  | found hidle hfound => exact hi.unRegist hidle hfound hplain
  | unlink hpc hmem => exact absurd hmem (hi.not_listed (hi.ok hpc).2)
  | absent hpc hmem => exact hi.unRegisterHighTemp hpc
  | freeRegisterHandle hpc => exact (hi.ok hpc).elim
  | delHandle hpc => exact hi.delHandle hpc
  | freeUsr hpc => exact hi.freeUsr hpc
  | initNoAuthor hpc => exact hi.clear hpc

theorem listenerInv_init (usrs : List UsrInfo) (handles : HandlePtr → ListenerHandle)
    (records : ℕ → ListenerRecord) : ListenerInv (.init usrs handles records) where
  bounded := Heap.bounded_init
  owned := rfl
  nodup := List.nodup_nil
  kept _ hmem := nomatch hmem
  once := List.nodup_nil
  entry p := by
    constructor
    · exact fun hmem => absurd hmem List.not_mem_nil
    · rintro ⟨usr, -, hlive, -⟩
      exact absurd hlive.1 (Nat.not_lt_zero _)
  visiting _ hl := nomatch hl
  threads _ := trivial
  exclusive _ _ _ _ husr := nomatch husr
  accounted _ hlt := absurd hlt (Nat.not_lt_zero _)

theorem ListenerInv.sound (hi : ListenerInv s) : s.ListenersSound where
  once := hi.once
  listed usr hmem hfun _ := (hi.entry _).2 ⟨usr, rfl, hi.kept usr hmem, hfun⟩
  live p hp := (hi.entry p).1 hp
  owned := hi.owned
  kept := hi.kept
  released usr hlt hlist hfree := by
    rcases hi.accounted usr hlt with hfreed | hmem | ⟨t, ht⟩
    · exact hfreed
    · exact absurd hmem hlist
    · exact absurd ht (hfree t)
  called l hl p hp := by
    obtain ⟨usr, rfl, hlive, -⟩ := (hi.entry p).1 (hi.visiting l hl hp)
    exact hlive

end SmartPlat.Adp
