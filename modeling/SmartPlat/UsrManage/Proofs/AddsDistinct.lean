import SmartPlat.UsrManage.Proofs.RecordsLive
import SmartPlat.Lib.Reservations

set_option autoImplicit false

/-! # Users added at the same time

`AddUsr` checks the name, finds an id and enters its record in three steps of their own. Names and ids
stay distinct if no other call is between the same steps with the same name or id. -/

namespace SmartPlat.UsrManage

open SmartPlat.Lib

/-! ## The property and its condition -/

/-- Of the users in the list that are as `AddUsr` added them no two share a name or an id; and what
    other calls have added since a call of `AddUsr` checked its name, or found its id, has other names,
    or other ids, than the record it is about to add. -/
structure AddsDistinct (x : UsrServer × UsrLog) : Prop where
  listed : ∀ p ∈ x.1.listHead, ∀ q ∈ x.1.listHead, p ∈ x.2.asAdded → q ∈ x.2.asAdded → p ≠ q →
    (x.1.mem p).name ≠ (x.1.mem q).name ∧ (x.1.mem p).usrID ≠ (x.1.mem q).usrID
  rivals : ∀ t p, x.1.threads t = .record p →
    (∀ u ∈ x.2.rivals t, u.name ≠ (x.1.mem p).name) ∧
      ∀ u ∈ x.2.rivalIDs t, u.usrID ≠ (x.1.mem p).usrID

/-- A check of `AddUsr` that finds nobody is made when no other call has checked the name and not added
    it yet; a search that finds an id free, when no other call has found that id and not added it. -/
def AddsApart (s : UsrServer) : UsrEvent → Prop
  | .call t (.addUsr cur info) => (UsrRequest.addUsr cur info).Admitted →
      s.findPtr info.name = none → ∀ t', t' ≠ t → s.pendingName t' ≠ some info.name
  | .search t => ∀ p usrid, s.threads t = .candidate p usrid → s.findID usrid = none →
      ∀ t' q, s.threads t' = .record q → (s.mem q).usrID ≠ usrid
  | _ => True

def Isolated (x : UsrServer × UsrLog) (e : UsrEvent) : Prop := FreesUnheld x.1 e ∧ AddsApart x.1 e

/-! ## Names and ids that are about to be added -/

/-- The id that a call of `AddUsr` has found free and not added yet. -/
def UsrServer.pendingID (s : UsrServer) (t : ℕ) : Option UInt32 :=
  match s.threads t with
  | .record p => some (s.mem p).usrID
  | _ => none

/-- The users in the list that are as `AddUsr` added them. -/
def addedUsrs (s : UsrServer) (g : UsrLog) : Set RecPtr := {p | p ∈ s.listHead ∧ p ∈ g.asAdded}

def NamesReserved (s : UsrServer) (g : UsrLog) : Prop :=
  Reserved (addedUsrs s g) (fun p => (s.mem p).name) s.pendingName
    fun t => (g.rivals t).map UserRegistInfo.name

def IDsReserved (s : UsrServer) (g : UsrLog) : Prop :=
  Reserved (addedUsrs s g) (fun p => (s.mem p).usrID) s.pendingID
    fun t => (g.rivalIDs t).map UserRegistInfo.usrID

section

variable {s s' : UsrServer} {g g' : UsrLog} {t t' : ℕ} {p : RecPtr} {pc : UsrPc} {e : UsrEvent}

theorem pendingName_record (h : s.threads t = .record p) :
    s.pendingName t = some (s.mem p).name := by
  unfold UsrServer.pendingName
  rw [h]
  rfl

theorem pendingID_record (h : s.threads t = .record p) :
    s.pendingID t = some (s.mem p).usrID := by
  unfold UsrServer.pendingID
  rw [h]

theorem pendingName_congr (hthread : s'.threads t = s.threads t)
    (hmem : ∀ p, (s.threads t).own = some p → (s'.mem p).name = (s.mem p).name) :
    s'.pendingName t = s.pendingName t := by
  unfold UsrServer.pendingName
  rw [hthread]
  cases hown : (s.threads t).own with
  | none => split <;> simp_all
  | some p =>
      split
      · rfl
      · rw [hown, Option.map_some, Option.map_some, hmem p hown]

theorem pendingID_congr (hthread : s'.threads t = s.threads t)
    (hmem : ∀ p, s.threads t = .record p → (s'.mem p).usrID = (s.mem p).usrID) :
    s'.pendingID t = s.pendingID t := by
  unfold UsrServer.pendingID
  rw [hthread]
  split
  · next p hpc => rw [hmem p hpc]
  · rfl

/-- Thread `t` moves to `pc`, and the records of other calls of `AddUsr` keep their names. -/
theorem NamesReserved.move (hN : NamesReserved s g)
    (hthreads : s'.threads = Function.update s.threads t pc)
    (hentries : addedUsrs s' g' ⊆ addedUsrs s g)
    (hkey : ∀ p ∈ addedUsrs s' g', (s'.mem p).name = (s.mem p).name)
    (hown : ∀ t' p, t' ≠ t → (s.threads t').own = some p → (s'.mem p).name = (s.mem p).name)
    (hpending : s'.pendingName t = none ∨ s'.pendingName t = s.pendingName t)
    (hrivals : ∀ t', g'.rivals t' = [] ∨ g'.rivals t' = g.rivals t') : NamesReserved s' g' := by
  refine hN.mono hentries hkey (fun t' k ht' => ?_) fun t' k _ hmem => ?_
  · by_cases hne : t' = t
    · subst hne
      rcases hpending with hnone | hsame
      · rw [hnone] at ht'
        cases ht'
      · rw [← hsame, ht']
    · rw [← ht', pendingName_congr (by rw [hthreads, Function.update_of_ne hne]) (hown t' · hne)]
  · rcases hrivals t' with hnil | hsame
    · rw [hnil] at hmem
      cases hmem
    · rwa [hsame] at hmem

theorem IDsReserved.move (hI : IDsReserved s g)
    (hthreads : s'.threads = Function.update s.threads t pc)
    (hentries : addedUsrs s' g' ⊆ addedUsrs s g)
    (hkey : ∀ p ∈ addedUsrs s' g', (s'.mem p).usrID = (s.mem p).usrID)
    (hown : ∀ t' p, t' ≠ t → s.threads t' = .record p → (s'.mem p).usrID = (s.mem p).usrID)
    (hpending : ∀ p, pc ≠ .record p)
    (hrivals : ∀ t', g'.rivalIDs t' = [] ∨ g'.rivalIDs t' = g.rivalIDs t') :
    IDsReserved s' g' := by
  refine hI.mono hentries hkey (fun t' k ht' => ?_) fun t' k _ hmem => ?_
  · by_cases hne : t' = t
    · subst hne
      unfold UsrServer.pendingID at ht'
      rw [hthreads, Function.update_self] at ht'
      split at ht'
      · exact absurd rfl (hpending _)
      · cases ht'
    · rw [← ht', pendingID_congr (by rw [hthreads, Function.update_of_ne hne]) (hown t' · hne)]
  · rcases hrivals t' with hnil | hsame
    · rw [hnil] at hmem
      cases hmem
    · rwa [hsame] at hmem

theorem searchedName_rivals (g : UsrLog) (t t' : ℕ) :
    (g.searchedName t).rivals t' = [] ∨ (g.searchedName t).rivals t' = g.rivals t' := by
  by_cases h : t' = t
  · exact Or.inl (by simp [UsrLog.searchedName, h])
  · exact Or.inr (by simp [UsrLog.searchedName, h])

theorem searchedID_rivalIDs (g : UsrLog) (t t' : ℕ) :
    (g.searchedID t).rivalIDs t' = [] ∨ (g.searchedID t).rivalIDs t' = g.rivalIDs t' := by
  by_cases h : t' = t
  · exact Or.inl (by simp [UsrLog.searchedID, h])
  · exact Or.inr (by simp [UsrLog.searchedID, h])

theorem Moves.pendingName {i : UInt32} (h : Moves (s.threads t) pc) :
    ({ s with i }.setThread t pc).pendingName t = s.pendingName t := by
  have hmem : ({ s with i }.setThread t pc).mem = s.mem := rfl
  unfold UsrServer.pendingName
  rw [setThread_self, hmem]
  generalize s.threads t = pc' at h
  cases h <;> rfl

theorem Moves.ne_record {pc' : UsrPc} (h : Moves pc pc') (p : RecPtr) : pc' ≠ .record p := by
  intro heq
  cases h <;> cases heq

theorem setRecord_of_fresh (info : UsrInfo) (hfresh : p ∉ s.allocated) :
    ∀ q ∈ s.allocated, (s.setRecord p info).mem q = s.mem q := by
  intro q hq
  refine setRecord_of_ne info ?_
  rintro rfl
  exact hfresh hq

theorem addedUsrs_insert_subset (s : UsrServer) (g : UsrLog) (t : ℕ) (p : RecPtr) :
    addedUsrs ({ s with listHead := s.listHead ++ [p] }.setThread t (.added p))
      (g.added t p (s.mem p)) ⊆ insert p (addedUsrs s g) := by
  intro q ⟨hlist, hadded⟩
  rcases Finset.mem_insert.1 hadded with rfl | hadded
  · exact Set.mem_insert q _
  · rcases List.mem_append.1 hlist with hold | hnew
    · exact Set.mem_insert_of_mem _ ⟨hold, hadded⟩
    · rw [List.mem_singleton.1 hnew]
      exact Set.mem_insert p _

theorem NamesReserved.step (hN : NamesReserved s g) (hT : Tidy s) (hap : AddsApart s e)
    (hs : UsrStepCase s g t e s' g') : NamesReserved s' g' := by
  cases hs with
  | ends hpc =>
      exact hN.mono subset_rfl (fun _ _ => rfl) (fun _ _ h => h) fun t' k _ hmem => by
        rcases searchedName_rivals g t t' with hnil | hsame
        · rw [hnil] at hmem
          cases hmem
        · rwa [hsame] at hmem
  | finds hpc hmem =>
      exact hN.move rfl subset_rfl (fun _ _ => rfl) (fun _ _ _ _ => rfl)
        (Or.inl (by simp [UsrServer.pendingName, UsrPc.own])) (searchedName_rivals g t)
  | @checks cur info hpc hadm hnone =>
      -- the name has not been found and no other thread is after it, so it can be reserved
      have hother := Reserved.reserve hN (t := t)
        (fun q hq => name_ne_of_findPtr hnone q hq.1) (hap hadm hnone)
      refine hother.mono subset_rfl (fun _ _ => rfl) (fun t' k ht' => ?_) fun t' k ht' hmem => ?_
      · by_cases hne : t' = t
        · subst hne
          rw [Function.update_self, ← ht']
          simp [UsrServer.pendingName]
        · rw [Function.update_of_ne hne, ← ht',
            pendingName_congr (setThread_of_ne _ hne) (fun _ _ => rfl)]
      · by_cases hne : t' = t
        · subst hne
          simp [UsrLog.searchedName] at hmem
        · rw [Function.update_of_ne hne]
          simpa [UsrLog.searchedName, hne] using hmem
  | @mallocs _ p info hpc hfresh =>
      have hkeep := setRecord_of_fresh info hfresh
      refine hN.move rfl subset_rfl (fun q hq => ?_) (fun t' q _ hq => ?_) (Or.inr ?_)
        fun _ => Or.inr rfl
      · exact congrArg UserRegistInfo.name (hkeep q (hT.listed q hq.1))
      · exact congrArg UserRegistInfo.name (hkeep q (hT.own t' q hq).1)
      · simp [UsrServer.pendingName, UsrPc.own, hpc, UsrServer.setThread, UsrServer.setRecord]
  | moves hmoves hlog =>
      refine hN.move rfl ?_ (fun _ _ => rfl) (fun _ _ _ _ => rfl) (Or.inr hmoves.pendingName) ?_
      · rcases hlog with rfl | rfl <;> exact subset_rfl
      · rcases hlog with rfl | rfl <;> exact fun _ => Or.inr rfl
  | @numbers p usrid hpc hnone =>
      have hname : ∀ q, ((s.setRecord p { s.mem p with usrID := usrid }).mem q).name =
          (s.mem q).name := by
        intro q
        by_cases hq : q = p
        · subst hq
          rw [setRecord_self]
        · rw [setRecord_of_ne _ hq]
      refine hN.move rfl subset_rfl (fun q _ => hname q) (fun _ q _ _ => hname q) (Or.inr ?_)
        (fun _ => Or.inr rfl)
      simp [UsrServer.pendingName, UsrPc.own, hpc, UsrServer.setThread, UsrServer.setRecord]
  | @inserts _ p hpc =>
      -- the name that was reserved becomes that of the record in the list
      refine (Reserved.commit hN (pendingName_record hpc) (a := p) rfl).mono (addedUsrs_insert_subset s g t p)
        (fun _ _ => rfl) (fun t' k ht' => ?_) fun t' k _ hmem => ?_
      · by_cases hne : t' = t
        · subst hne
          simp [UsrServer.pendingName, UsrPc.own] at ht'
        · have hsame : ({ s with listHead := s.listHead ++ [p] }.setThread t (.added p)).pendingName t' =
              s.pendingName t' :=
            pendingName_congr (setThread_of_ne _ hne) fun _ _ => rfl
          rw [Function.update_of_ne hne, ← ht', hsame]
      · by_cases hne : t' = t
        · rw [if_pos hne]
          simpa [UsrLog.added, hne] using hmem
        · rw [if_neg hne]
          simpa [UsrLog.added, hne] using hmem
  | @writes _ p info pc g' hpc hnext hkeys =>
      have hpend : ((s.setRecord p info).setThread t pc).pendingName t = none := by
        rcases hnext with rfl | rfl | rfl | ⟨u, v, rfl⟩ <;>
          simp [UsrServer.pendingName, UsrPc.own]
      have hown : ∀ t' q, t' ≠ t → (s.threads t').own = some q →
          (((s.setRecord p info).setThread t pc).mem q).name = (s.mem q).name := by
        intro t' q _ hq
        have hne : q ≠ p := by
          rintro rfl
          exact (hT.own t' q hq).2.2 t hpc
        exact congrArg UserRegistInfo.name (setRecord_of_ne info hne)
      -- the record keeps its name, or counts as added no longer
      rcases hkeys with ⟨rfl, hname, -⟩ | rfl
      · refine hN.move rfl subset_rfl (fun q _ => ?_) hown (Or.inl hpend) (fun _ => Or.inr rfl)
        by_cases hq : q = p
        · subst hq
          rw [← hname]
          exact congrArg UserRegistInfo.name (setRecord_self info)
        · exact congrArg UserRegistInfo.name (setRecord_of_ne info hq)
      · refine hN.move rfl (fun q hq => ⟨hq.1, Finset.mem_of_mem_erase hq.2⟩) (fun q hq => ?_) hown
          (Or.inl hpend) (fun _ => Or.inr rfl)
        exact congrArg UserRegistInfo.name (setRecord_of_ne info (Finset.ne_of_mem_erase hq.2))
  | @removes _ p hpc =>
      exact hN.move rfl (fun q hq => ⟨List.mem_of_mem_erase hq.1, hq.2⟩) (fun _ _ => rfl)
        (fun _ _ _ _ => rfl) (Or.inl (by simp [UsrServer.pendingName, UsrPc.own]))
        (fun _ => Or.inr rfl)
  | frees hpc =>
      exact hN.move rfl subset_rfl (fun _ _ => rfl) (fun _ _ _ _ => rfl)
        (Or.inl (by simp [UsrServer.pendingName, UsrPc.own])) (fun _ => Or.inr rfl)

theorem IDsReserved.step (hI : IDsReserved s g) (hT : Tidy s) (hap : AddsApart s e)
    (hs : UsrStepCase s g t e s' g') : IDsReserved s' g' := by
  cases hs with
  | ends hpc => exact hI
  | finds hpc hmem =>
      exact hI.move rfl subset_rfl (fun _ _ => rfl) (fun _ _ _ _ => rfl) (fun _ h => by cases h)
        fun _ => Or.inr rfl
  | checks hpc hadm hnone =>
      exact hI.move rfl subset_rfl (fun _ _ => rfl) (fun _ _ _ _ => rfl) (fun _ h => by cases h)
        fun _ => Or.inr rfl
  | @mallocs _ p info hpc hfresh =>
      have hkeep := setRecord_of_fresh info hfresh
      refine hI.move rfl subset_rfl (fun q hq => ?_) (fun t' q _ hq => ?_) (fun _ h => by cases h)
        fun _ => Or.inr rfl
      · exact congrArg UserRegistInfo.usrID (hkeep q (hT.listed q hq.1))
      · exact congrArg UserRegistInfo.usrID (hkeep q (hT.own t' q (by rw [hq, UsrPc.own])).1)
  | moves hmoves hlog =>
      refine hI.move rfl ?_ (fun _ _ => rfl) (fun _ _ _ _ => rfl) hmoves.ne_record ?_
      · rcases hlog with rfl | rfl <;> exact subset_rfl
      · rcases hlog with rfl | rfl
        · exact fun _ => Or.inr rfl
        · exact searchedID_rivalIDs g t
  | @numbers p usrid hpc hnone =>
      have hown : (s.threads t).own = some p := by rw [hpc, UsrPc.own]
      have hnext := Reserved.reserve hI (t := t)
        (fun q hq => usrID_ne_of_findID hnone q hq.1) fun t' _ ht' => by
          unfold UsrServer.pendingID at ht'
          split at ht'
          · next q hq => exact hap p usrid hpc hnone t' q hq (Option.some.inj ht')
          · cases ht'
      refine hnext.mono subset_rfl (fun q hq => ?_) (fun t' k ht' => ?_) fun t' k ht' hmem => ?_
      · have hne : q ≠ p := fun heq => (hT.own t p hown).2.1 (heq ▸ hq.1)
        exact congrArg UserRegistInfo.usrID (setRecord_of_ne _ hne)
      · by_cases hne : t' = t
        · subst hne
          simpa [UsrServer.pendingID, UsrServer.setThread, UsrServer.setRecord] using ht'
        · have hsame : ((s.setRecord p { s.mem p with usrID := usrid }).setThread t
              (.record p)).pendingID t' = s.pendingID t' := by
            refine pendingID_congr (setThread_of_ne _ hne) fun q hq => ?_
            refine congrArg UserRegistInfo.usrID (setRecord_of_ne _ ?_)
            rintro rfl
            exact hne (hT.owner t' t q (by rw [hq, UsrPc.own]) hown)
          rw [Function.update_of_ne hne, ← ht', hsame]
      · by_cases hne : t' = t
        · subst hne
          simp [UsrLog.searchedID] at hmem
        · rw [Function.update_of_ne hne]
          simpa [UsrLog.searchedID, hne] using hmem
  | @inserts _ p hpc =>
      refine (Reserved.commit hI (pendingID_record hpc) (a := p) rfl).mono (addedUsrs_insert_subset s g t p)
        (fun _ _ => rfl) (fun t' k ht' => ?_) fun t' k _ hmem => ?_
      · by_cases hne : t' = t
        · subst hne
          simp [UsrServer.pendingID] at ht'
        · have hsame : ({ s with listHead := s.listHead ++ [p] }.setThread t (.added p)).pendingID t' =
              s.pendingID t' :=
            pendingID_congr (setThread_of_ne _ hne) fun _ _ => rfl
          rw [Function.update_of_ne hne, ← ht', hsame]
      · by_cases hne : t' = t
        · rw [if_pos hne]
          simpa [UsrLog.added, hne] using hmem
        · rw [if_neg hne]
          simpa [UsrLog.added, hne] using hmem
  | @writes _ p info pc g' hpc hnext hkeys =>
      have hpc' : ∀ q, pc ≠ .record q := by
        rcases hnext with rfl | rfl | rfl | ⟨u, v, rfl⟩ <;> exact fun _ h => by cases h
      have hown : ∀ t' q, t' ≠ t → s.threads t' = .record q →
          ((s.setRecord p info).mem q).usrID = (s.mem q).usrID := by
        intro t' q _ hq
        refine congrArg UserRegistInfo.usrID (setRecord_of_ne info ?_)
        rintro rfl
        exact (hT.own t' q (by rw [hq, UsrPc.own])).2.2 t hpc
      -- the record keeps its id, or counts as added no longer
      rcases hkeys with ⟨rfl, -, hid⟩ | rfl
      · refine hI.move rfl subset_rfl (fun q _ => ?_) hown hpc' (fun _ => Or.inr rfl)
        by_cases hq : q = p
        · subst hq
          rw [← hid]
          exact congrArg UserRegistInfo.usrID (setRecord_self info)
        · exact congrArg UserRegistInfo.usrID (setRecord_of_ne info hq)
      · refine hI.move rfl (fun q hq => ⟨hq.1, Finset.mem_of_mem_erase hq.2⟩) (fun q hq => ?_) hown
          hpc' (fun _ => Or.inr rfl)
        exact congrArg UserRegistInfo.usrID (setRecord_of_ne info (Finset.ne_of_mem_erase hq.2))
  | @removes _ p hpc =>
      exact hI.move rfl (fun q hq => ⟨List.mem_of_mem_erase hq.1, hq.2⟩) (fun _ _ => rfl)
        (fun _ _ _ _ => rfl) (fun _ h => by cases h) (fun _ => Or.inr rfl)
  | frees hpc =>
      exact hI.move rfl subset_rfl (fun _ _ => rfl) (fun _ _ _ _ => rfl) (fun _ h => by cases h)
        (fun _ => Or.inr rfl)

end

/-! ## All runs -/

theorem NamesReserved.init (l : LoadedList) : NamesReserved (.init l) .empty where
  distinct _ hp := absurd hp.2 (Finset.notMem_empty _)
  fresh _ _ h := nomatch h
  apart _ _ _ _ h := nomatch h
  rivals _ _ h := nomatch h

theorem IDsReserved.init (l : LoadedList) : IDsReserved (.init l) .empty where
  distinct _ hp := absurd hp.2 (Finset.notMem_empty _)
  fresh _ _ h := nomatch h
  apart _ _ _ _ h := nomatch h
  rivals _ _ h := nomatch h

theorem addsDistinct_of_reserved {s : UsrServer} {g : UsrLog} (hN : NamesReserved s g)
    (hI : IDsReserved s g) : AddsDistinct (s, g) where
  listed _ hp _ hq hpa hqa hne :=
    ⟨fun heq => hne (hN.distinct ⟨hp, hpa⟩ ⟨hq, hqa⟩ heq),
      fun heq => hne (hI.distinct ⟨hp, hpa⟩ ⟨hq, hqa⟩ heq)⟩
  rivals t _ hpc :=
    ⟨fun u hu heq => hN.rivals t _ (pendingName_record hpc) (List.mem_map.2 ⟨u, hu, heq⟩),
      fun u hu heq => hI.rivals t _ (pendingID_record hpc) (List.mem_map.2 ⟨u, hu, heq⟩)⟩

/-- **Users at the same time.** In a run whose calls are isolated where it matters, what `AddUsr` adds
    has distinct names and ids and no operation uses a freed record. -/
theorem concurrentUsers {l : LoadedList} {tr : List UsrEvent} {x : UsrServer × UsrLog}
    (h : Run (stepWhen Isolated UsrLoggedStep) (.init l, .empty) tr x) :
    AddsDistinct x ∧ RecordsLive x.1 := by
  obtain ⟨hT, hN, hI⟩ : Tidy x.1 ∧ NamesReserved x.1 x.2 ∧ IDsReserved x.1 x.2 := by
    refine h.stateInvariant (fun x => Tidy x.1 ∧ NamesReserved x.1 x.2 ∧ IDsReserved x.1 x.2)
      ⟨.init l, .init l, .init l⟩ fun x e y ⟨hT, hN, hI⟩ ⟨⟨hfree, hap⟩, hs⟩ => ?_
    have hcase := usrStepCase hs
    exact ⟨hT.step hfree hcase, hN.step hT hap hcase, hI.step hT hap hcase⟩
  exact ⟨addsDistinct_of_reserved hN hI, hT.live⟩

/-! ## Finitely many threads -/

theorem UsrStepCase.threads_of_ne {s s' : UsrServer} {g g' : UsrLog} {t t' : ℕ} {e : UsrEvent}
    (h : UsrStepCase s g t e s' g') (hne : t' ≠ t) : s'.threads t' = s.threads t' := by
  cases h with
  | ends => rfl
  | _ => exact setThread_of_ne _ hne

/-- The id that thread `t` is about to search. -/
def UsrServer.candidateID (s : UsrServer) (t : ℕ) : Option UInt32 :=
  match s.threads t with
  | .candidate _ usrid => some usrid
  | _ => none

/-- Thread `t'` is where the step should not find it. -/
def inTheWay (s : UsrServer) (t' : ℕ) : UsrEvent → Bool
  | .free t => (s.threads t').held.any fun p => (s.threads t).held = some p
  | .call _ (.addUsr _ info) => s.pendingName t' = some info.name
  | .search t => (s.pendingID t').any fun usrid => s.candidateID t = some usrid
  | _ => false

/-- None of the first `n` threads is in the way. -/
def ClearBelow (n : ℕ) (x : UsrServer × UsrLog) (e : UsrEvent) : Prop :=
  ∀ t' < n, t' ≠ e.thread → inTheWay x.1 t' e = false

instance (n : ℕ) (x : UsrServer × UsrLog) (e : UsrEvent) : Decidable (ClearBelow n x e) :=
  inferInstanceAs (Decidable (∀ t' < n, _))

theorem inTheWay_idle {s : UsrServer} {t' : ℕ} (h : s.threads t' = .idle) (e : UsrEvent) :
    inTheWay s t' e = false := by
  cases e with
  | call t req => cases req <;> simp [inTheWay, UsrServer.pendingName, UsrPc.own, h]
  | _ => simp [inTheWay, UsrServer.pendingID, UsrPc.held, h]

theorem isolated_of_clear {x : UsrServer × UsrLog} {e : UsrEvent}
    (h : ∀ t', t' ≠ e.thread → inTheWay x.1 t' e = false) : Isolated x e := by
  constructor
  · cases e with
    | free t =>
        intro t' hne hheld heq
        have hclear := h t' hne
        obtain ⟨p, hp⟩ := Option.ne_none_iff_exists'.1 hheld
        rw [inTheWay, ← heq, hp, Option.any_some, decide_eq_false_iff_not] at hclear
        exact hclear rfl
    | _ => trivial
  · cases e with
    | call t req =>
        cases req with
        | addUsr cur info => exact fun _ _ t' hne => of_decide_eq_false (h t' hne)
        | _ => trivial
    | search t =>
        intro p usrid hpc _ t' q hq hid
        have hne : t' ≠ t := by
          rintro rfl
          rw [hpc] at hq
          cases hq
        have hclear := h t' hne
        rw [inTheWay, pendingID_record hq, Option.any_some, UsrServer.candidateID, hpc, hid,
          decide_eq_false_iff_not] at hclear
        exact hclear rfl
    | _ => trivial

/-- Operations of the first `n` threads are isolated if these threads are out of the way. -/
theorem isolated_of_clearBelow {l : LoadedList} {tr : List UsrEvent} {x : UsrServer × UsrLog} {n : ℕ}
    (hthreads : ∀ e ∈ tr, e.thread < n)
    (h : Run (stepWhen (ClearBelow n) UsrLoggedStep) (.init l, .empty) tr x) :
    Run (stepWhen Isolated UsrLoggedStep) (.init l, .empty) tr x ∧
      ∀ t', n ≤ t' → x.1.threads t' = .idle := by
  induction h with
  | nil => exact ⟨.nil, fun _ _ => rfl⟩
  | @snoc tr x y e _ hs ih =>
      obtain ⟨hrun, hidle⟩ := ih fun e' he' => hthreads e' (List.mem_append_left _ he')
      have he : e.thread < n := hthreads e List.mem_concat_self
      refine ⟨hrun.snoc ⟨isolated_of_clear fun t' hne => ?_, hs.2⟩, fun t' hle => ?_⟩
      · rcases Nat.lt_or_ge t' n with hlt | hge
        · exact hs.1 t' hlt hne
        · exact inTheWay_idle (hidle t' hge) e
      · rw [(usrStepCase hs.2).threads_of_ne (by omega)]
        exact hidle t' hle

/-! ## Concrete runs -/

/-- Thread `t` tries `n` numbers that are taken and then one that is free. -/
def sampleNumber (t n : ℕ) : List UsrEvent :=
  (List.replicate n [.candidate t, .search t, .increment t]).flatten ++ [.candidate t, .search t]

def dave : UsrInfo := sampleUsr 100 .operator 0

/-- Two threads add Carol and Dave while a third deletes Alice: each call is between steps of the others,
    and the second thread finds the number of the first one taken. -/
def threeThreads : List UsrEvent :=
  [.call 0 (.addUsr bob carol), .call 1 (.addUsr bob dave), .malloc 0 2, .malloc 1 3] ++ sampleNumber 0 2 ++
    [.call 2 (.delUsr bob alice), .candidate 1, .access 2, .addHandle 0, .delHandle 2, .search 1,
      .increment 1, .free 2, .candidate 1, .addUsrcb 0, .search 1, .addHandle 1, .addUsrcb 1]

theorem concurrentUsers_add_delete :
    ∃ x, Run (stepWhen Isolated UsrLoggedStep) (.init aliceBob, .empty) threeThreads x ∧
      x.1.listHead = [1, 2, 3] ∧ ((x.1.mem 2).usrID, (x.1.mem 3).usrID) = (1000002, 1000003) ∧
      AddsDistinct x ∧ RecordsLive x.1 := by
  obtain ⟨x, hrun, hlist, hids⟩ : ∃ x, Run (stepWhen (ClearBelow 3) UsrLoggedStep) (.init aliceBob, .empty)
      threeThreads x ∧ x.1.listHead = [1, 2, 3] ∧
      ((x.1.mem 2).usrID, (x.1.mem 3).usrID) = (1000002, 1000003) :=
    Run.exists_of_eval (stepWhen_of_eval (stepWith_of_eval fun _ _ _ h => h)) (by decide)
  have hiso := (isolated_of_clearBelow (n := 3) (by decide) hrun).1
  exact ⟨x, hiso, hlist, hids, concurrentUsers hiso⟩

/-- Two threads add Carol at the same time: she is there twice, with one id. -/
theorem user_added_twice :
    ∃ x, Run UsrLoggedStep (.init aliceBob, .empty)
        ([.call 0 (.addUsr bob carol), .call 1 (.addUsr bob carol), .malloc 0 2, .malloc 1 3] ++
          sampleNumber 0 2 ++ sampleNumber 1 0 ++ [.addHandle 0, .addHandle 1]) x ∧
      x.1.listHead = [0, 1, 2, 3] ∧ (x.1.mem 2).name = (x.1.mem 3).name ∧
      (x.1.mem 2).usrID = (x.1.mem 3).usrID ∧ ¬ AddsDistinct x := by
  obtain ⟨x, hrun, hlist, hadded, hname, hid⟩ : ∃ x, Run UsrLoggedStep (.init aliceBob, .empty)
      ([.call 0 (.addUsr bob carol), .call 1 (.addUsr bob carol), .malloc 0 2, .malloc 1 3] ++
        sampleNumber 0 2 ++ sampleNumber 1 0 ++ [.addHandle 0, .addHandle 1]) x ∧
      x.1.listHead = [0, 1, 2, 3] ∧ (2 ∈ x.2.asAdded ∧ 3 ∈ x.2.asAdded) ∧
      (x.1.mem 2).name = (x.1.mem 3).name ∧ (x.1.mem 2).usrID = (x.1.mem 3).usrID :=
    Run.exists_of_eval (stepWith_of_eval fun _ _ _ h => h) (by decide)
  refine ⟨x, hrun, hlist, hname, hid, fun h => ?_⟩
  exact (h.listed 2 (by simp [hlist]) 3 (by simp [hlist]) hadded.1 hadded.2 (by decide)).1 hname

end SmartPlat.UsrManage
