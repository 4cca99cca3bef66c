import SmartPlat.UsrManage.Threads

set_option autoImplicit false

/-! # Steps of user operations

What one step does to the list, the records and the threads. The log beside the state records which
users are still as `AddUsr` added them, and what other calls of `AddUsr` have added since a thread
checked a name and since it found a free id. -/

namespace SmartPlat.UsrManage

open SmartPlat.Lib

/-! ## The log -/

structure UsrLog where
  /-- The records in the list whose name and id are those that `AddUsr` gave them. -/
  asAdded : Finset RecPtr
  /-- What others have added since the last search for a name. -/
  rivals : ℕ → List UsrInfo
  /-- What others have added since the last search for an id. -/
  rivalIDs : ℕ → List UsrInfo

def UsrLog.empty : UsrLog := ⟨∅, fun _ => [], fun _ => []⟩

namespace UsrLog

variable (g : UsrLog)

def searchedName (t : ℕ) : UsrLog := { g with rivals := Function.update g.rivals t [] }

def searchedID (t : ℕ) : UsrLog := { g with rivalIDs := Function.update g.rivalIDs t [] }

def changed (p : RecPtr) : UsrLog := { g with asAdded := g.asAdded.erase p }

def added (t : ℕ) (p : RecPtr) (info : UsrInfo) : UsrLog where
  asAdded := insert p g.asAdded
  rivals t' := if t' = t then g.rivals t' else info :: g.rivals t'
  rivalIDs t' := if t' = t then g.rivalIDs t' else info :: g.rivalIDs t'

def tick (g : UsrLog) (s : UsrServer) : UsrEvent → UsrLog
  | .call t _ => g.searchedName t
  | .access t =>
      match s.threads t with
      | .found (.modifyUsrBindInfo ..) p => g.changed p
      | _ => g
  | .store t =>
      match s.threads t with
      | .saved _ p _ => g.changed p
      | _ => g
  | .search t => g.searchedID t
  | .addHandle t =>
      match s.threads t with
      | .record p => g.added t p (s.mem p)
      | _ => g
  | _ => g

end UsrLog

/-- A step, and what happened so far. -/
abbrev UsrLoggedStep : UsrServer × UsrLog → UsrEvent → UsrServer × UsrLog → Prop :=
  stepWith UsrLog.tick UsrThreadStep

/-! ## What a step does -/

section

variable {s s' : UsrServer} {g g' : UsrLog} {t : ℕ} {name : CString} {p : RecPtr}

@[simp]
theorem setThread_self (pc : UsrPc) : (s.setThread t pc).threads t = pc :=
  Function.update_self _ _ _

theorem setThread_of_ne {t' : ℕ} (pc : UsrPc) (h : t' ≠ t) :
    (s.setThread t pc).threads t' = s.threads t' :=
  Function.update_of_ne h _ _

@[simp]
theorem setRecord_self (info : UsrInfo) : (s.setRecord p info).mem p = info :=
  Function.update_self _ _ _

theorem setRecord_of_ne {q : RecPtr} (info : UsrInfo) (h : q ≠ p) :
    (s.setRecord p info).mem q = s.mem q :=
  Function.update_of_ne h _ _

theorem findPtr_mem (h : s.findPtr name = some p) : p ∈ s.listHead := mem_of_lookup h

theorem name_ne_of_findPtr (h : s.findPtr name = none) : ∀ q ∈ s.listHead, (s.mem q).name ≠ name :=
  lookup_eq_none.1 h

theorem usrID_ne_of_findID {usrid : UInt32} (h : s.findID usrid = none) :
    ∀ q ∈ s.listHead, (s.mem q).usrID ≠ usrid :=
  lookup_eq_none.1 h

/-- A thread goes on and changes nothing that it shares, except for the counter. -/
inductive Moves : UsrPc → UsrPc → Prop
  | stored (p : RecPtr) : Moves (.stored p) .idle
  | candidate (p : RecPtr) (usrid : UInt32) : Moves (.createUsrid p) (.candidate p usrid)
  | taken (p : RecPtr) (usrid : UInt32) : Moves (.candidate p usrid) (.taken p)
  | increment (p : RecPtr) : Moves (.taken p) (.createUsrid p)
  | added (p : RecPtr) : Moves (.added p) .idle

/-- A step of thread `t`. -/
inductive UsrStepCase (s : UsrServer) (g : UsrLog) (t : ℕ) :
    UsrEvent → UsrServer → UsrLog → Prop
  /-- The operation ends at once, or finds nobody. -/
  | ends {e : UsrEvent} (hpc : s.threads t = .idle) : UsrStepCase s g t e s (g.searchedName t)
  | finds {e : UsrEvent} {req : UsrRequest} {p : RecPtr} (hpc : s.threads t = .idle)
      (hmem : p ∈ s.listHead) :
      UsrStepCase s g t e (s.setThread t (.found req p)) (g.searchedName t)
  | checks {cur info : UsrInfo} (hpc : s.threads t = .idle)
      (hadm : (UsrRequest.addUsr cur info).Admitted) (hnone : s.findPtr info.name = none) :
      UsrStepCase s g t (.call t (.addUsr cur info)) (s.setThread t (.checked info))
        (g.searchedName t)
  | mallocs {e : UsrEvent} {p : RecPtr} {info : UsrInfo} (hpc : s.threads t = .checked info)
      (hfresh : p ∉ s.allocated) :
      UsrStepCase s g t e (({ s with allocated := insert p s.allocated }.setRecord p
        info).setThread t (.createUsrid p)) g
  | moves {e : UsrEvent} {pc : UsrPc} {i : UInt32} {g' : UsrLog}
      (hmoves : Moves (s.threads t) pc) (hlog : g' = g ∨ g' = g.searchedID t) :
      UsrStepCase s g t e ({ s with i }.setThread t pc) g'
  | numbers {p : RecPtr} {usrid : UInt32} (hpc : s.threads t = .candidate p usrid)
      (hnone : s.findID usrid = none) :
      UsrStepCase s g t (.search t)
        ((s.setRecord p { s.mem p with usrID := usrid }).setThread t (.record p)) (g.searchedID t)
  | inserts {e : UsrEvent} {p : RecPtr} (hpc : s.threads t = .record p) :
      UsrStepCase s g t e ({ s with listHead := s.listHead ++ [p] }.setThread t (.added p))
        (g.added t p (s.mem p))
  /-- An access to a record that was looked up. -/
  | writes {e : UsrEvent} {p : RecPtr} {info : UsrInfo} {pc : UsrPc} {g' : UsrLog}
      (hpc : (s.threads t).held = some p)
      (hnext : pc = .idle ∨ pc = .delHandle p ∨ pc = .stored p ∨ ∃ u v, pc = .saved u p v)
      (hkeys : g' = g ∧ info.name = (s.mem p).name ∧ info.usrID = (s.mem p).usrID ∨
        g' = g.changed p) :
      UsrStepCase s g t e ((s.setRecord p info).setThread t pc) g'
  | removes {e : UsrEvent} {p : RecPtr} (hpc : s.threads t = .delHandle p) :
      UsrStepCase s g t e ({ s with listHead := s.listHead.erase p }.setThread t (.free p)) g
  | frees {p : RecPtr} (hpc : s.threads t = .free p) :
      UsrStepCase s g t (.free t) ({ s with allocated := s.allocated.erase p }.setThread t .idle) g

theorem call_cases {req : UsrRequest} (h : usrStep s (.call t req) = some s') :
    s.threads t = .idle ∧ (s' = s ∨ (∃ p ∈ s.listHead, s' = s.setThread t (.found req p)) ∨
      ∃ cur info, req = .addUsr cur info ∧ req.Admitted ∧ s.findPtr info.name = none ∧
        s' = s.setThread t (.checked info)) := by
  simp only [usrStep] at h
  split at h
  · next hpc =>
      refine ⟨hpc, ?_⟩
      split at h
      · next hadm =>
          split at h
          · next hnone =>
              unfold notFound at h
              split at h
              · next cur info =>
                  obtain rfl := Option.some.inj h
                  exact Or.inr (Or.inr ⟨cur, info, rfl, hadm, hnone, rfl⟩)
              · cases h
              · cases h
              · exact Or.inl (Option.some.inj h).symm
          · next p hfound =>
              obtain rfl := Option.some.inj h
              exact Or.inr (Or.inl ⟨p, findPtr_mem hfound, rfl⟩)
      · exact Or.inl (Option.some.inj h).symm
  · cases h

/-- Which requests keep the name and the id of the record they access. -/
theorem access_keys {req : UsrRequest} {info info' : UsrInfo} (h : req.access info = .ok info')
    (hreq : ∀ i n, req ≠ .modifyUsrBindInfo i n) :
    info'.name = info.name ∧ info'.usrID = info.usrID := by
  unfold UsrRequest.access at h
  split at h
  · split at h
    · obtain ⟨_, -, rfl⟩ := map_eq_ok_iff.1 h
      exact ⟨rfl, rfl⟩
    · cases h
      exact ⟨rfl, rfl⟩
  · obtain ⟨_, -, rfl⟩ := map_eq_ok_iff.1 h
    exact ⟨rfl, rfl⟩
  · exact absurd rfl (hreq _ _)
  · cases h
    exact ⟨rfl, rfl⟩

theorem next_cases (req : UsrRequest) (p : RecPtr) (info : UsrInfo) :
    req.next p info = .idle ∨ req.next p info = .delHandle p ∨ req.next p info = .stored p ∨
      ∃ u v, req.next p info = .saved u p v := by
  unfold UsrRequest.next
  split
  · exact Or.inr (Or.inr (Or.inr ⟨_, _, rfl⟩))
  · split
    · exact Or.inl rfl
    · exact Or.inr (Or.inl rfl)
  · exact Or.inl rfl

theorem usrStepCase {e : UsrEvent} (h : UsrLoggedStep (s, g) e (s', g')) :
    UsrStepCase s g e.thread e s' g' := by
  obtain ⟨hs, hg⟩ := h
  simp only at hs hg
  subst hg
  cases e with
  | call t req =>
      obtain ⟨hpc, rfl | ⟨p, hmem, rfl⟩ | ⟨cur, info, rfl, hadm, hnone, rfl⟩⟩ := call_cases hs
      · exact .ends hpc
      · exact .finds hpc hmem
      · exact .checks hpc hadm hnone
  | access t =>
      simp only [UsrThreadStep, usrStep] at hs
      split at hs
      · next req p hpc =>
          split at hs
          · next info hacc =>
              obtain rfl := Option.some.inj hs
              refine .writes (by rw [UsrEvent.thread, hpc, UsrPc.held]) (next_cases req p _) ?_
              simp only [UsrLog.tick, hpc]
              split
              · next heq =>
                  cases heq
                  exact Or.inr rfl
              · next hne =>
                  refine Or.inl ⟨rfl, access_keys hacc fun i n heq => ?_⟩
                  subst heq
                  exact hne i n p rfl
          · cases hs
      · cases hs
  | store t =>
      simp only [UsrThreadStep, usrStep] at hs
      split at hs
      · next usrInfo p info hpc =>
          obtain rfl := Option.some.inj hs
          refine .writes (by rw [UsrEvent.thread, hpc, UsrPc.held]) (Or.inr (Or.inr (Or.inl rfl))) ?_
          simp only [UsrLog.tick, hpc]
          exact Or.inr trivial
      · cases hs
  | setUsrInfocb t =>
      simp only [UsrThreadStep, usrStep] at hs
      split at hs
      · next p hpc =>
          obtain rfl := Option.some.inj hs
          exact .moves (i := s.i) (by rw [UsrEvent.thread, hpc]; exact .stored p) (Or.inl rfl)
      · cases hs
  | delHandle t =>
      simp only [UsrThreadStep, usrStep] at hs
      split at hs
      · next p hpc =>
          obtain rfl := Option.some.inj hs
          exact .removes hpc
      · cases hs
  | free t =>
      simp only [UsrThreadStep, usrStep] at hs
      split at hs
      · next p hpc =>
          obtain rfl := Option.some.inj hs
          exact .frees hpc
      · cases hs
  | malloc t p =>
      simp only [UsrThreadStep, usrStep] at hs
      split at hs
      · next info hpc =>
          obtain ⟨hfresh, hs⟩ := Option.ite_none_left_eq_some.1 hs
          obtain rfl := Option.some.inj hs
          exact .mallocs hpc hfresh
      · cases hs
  | candidate t =>
      simp only [UsrThreadStep, usrStep] at hs
      split at hs
      · next p hpc =>
          obtain rfl := Option.some.inj hs
          exact .moves (i := s.i) (by rw [UsrEvent.thread, hpc]; exact .candidate p _) (Or.inl rfl)
      · cases hs
  | search t =>
      simp only [UsrThreadStep, usrStep] at hs
      split at hs
      · next p usrid hpc =>
          split at hs <;> obtain rfl := Option.some.inj hs
          · next hnone => exact .numbers hpc hnone
          · exact .moves (i := s.i) (by rw [UsrEvent.thread, hpc]; exact .taken p usrid) (Or.inr rfl)
      · cases hs
  | increment t =>
      simp only [UsrThreadStep, usrStep] at hs
      split at hs
      · next p hpc =>
          obtain rfl := Option.some.inj hs
          exact .moves (i := s.i + 1) (by rw [UsrEvent.thread, hpc]; exact .increment p) (Or.inl rfl)
      · cases hs
  | addHandle t =>
      simp only [UsrThreadStep, usrStep] at hs
      split at hs
      · next p hpc =>
          obtain rfl := Option.some.inj hs
          simp only [UsrLog.tick, hpc]
          exact .inserts hpc
      · cases hs
  | addUsrcb t =>
      simp only [UsrThreadStep, usrStep] at hs
      split at hs
      · next p hpc =>
          obtain rfl := Option.some.inj hs
          exact .moves (i := s.i) (by rw [UsrEvent.thread, hpc]; exact .added p) (Or.inl rfl)
      · cases hs

end

end SmartPlat.UsrManage
