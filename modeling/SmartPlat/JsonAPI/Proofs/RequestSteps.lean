import SmartPlat.JsonAPI.Requests
import SmartPlat.Lib.Transition

set_option autoImplicit false

/-! # Steps of requests

The sessions on a handle are numbered, and a log beside the state records which of them were found by
a logout, freed and answered. `StepCase` says what one step does to the list, the threads and the log;
the adapter's records play no part in who uses a handle. -/

namespace SmartPlat.JsonAPI

open SmartPlat.Lib SmartPlat.UsrManage SmartPlat.Adp SmartPlat.Adp.AdpState

/-! ## Program counters -/

namespace RequestPc

/-- The handle that the handler of the request runs on. -/
def handle : RequestPc → Option HandlePtr
  | .idle => none
  | .regist h | .login h | .listed h | .handler h | .loginOut h | .unRegist h => some h
  | .delHandle h _ | .free h _ => some h

/-- A handle that is not in the list yet, or not any more. -/
def owned : RequestPc → Option HandlePtr
  | .regist h | .login h | .free h _ => some h
  | _ => none

def freeing : RequestPc → Option HandlePtr
  | .free h _ => some h
  | _ => none

/-- The handle a logout found. -/
def loggingOut : RequestPc → Option HandlePtr
  | .loginOut h | .unRegist h | .delHandle h _ | .free h _ => some h
  | _ => none

/-- The handle a logout has unregistered. -/
def unRegistered : RequestPc → Option HandlePtr
  | .delHandle h true | .free h true => some h
  | _ => none

theorem owned_of_freeing {pc : RequestPc} {h : HandlePtr} (hpc : pc.freeing = some h) :
    pc.owned = some h := by
  cases pc <;> simp_all [freeing, owned]

end RequestPc

/-! ## Sessions -/

/-- A handle, and how many sessions there have been on it. -/
abbrev SessionKey := HandlePtr × ℕ

/-- What happened to the sessions. -/
structure SessionLog where
  mallocs : HandlePtr → ℕ
  freed : SessionKey → ℕ
  /-- The session that the logout of a thread found. -/
  found : ℕ → SessionKey
  /-- The sessions of which a logout was answered. -/
  loggedOut : List SessionKey

def SessionLog.empty : SessionLog := ⟨fun _ => 0, fun _ => 0, fun _ => (0, 0), []⟩

namespace SessionLog

variable (g : SessionLog)

def current (h : HandlePtr) : SessionKey := (h, g.mallocs h)

def opened (h : HandlePtr) : SessionLog :=
  { g with mallocs := Function.update g.mallocs h (g.mallocs h + 1) }

def search (t : ℕ) (h : HandlePtr) : SessionLog :=
  { g with found := Function.update g.found t (g.current h) }

def answered (t : ℕ) : SessionLog := { g with loggedOut := g.found t :: g.loggedOut }

def released (h : HandlePtr) : SessionLog :=
  { g with freed := Function.update g.freed (g.current h) (g.freed (g.current h) + 1) }

theorem opened_self (h : HandlePtr) : (g.opened h).current h = (h, g.mallocs h + 1) := by
  simp [opened, current]

theorem opened_of_ne {h h' : HandlePtr} (hne : h' ≠ h) : (g.opened h).current h' = g.current h' := by
  simp [opened, current, hne]

theorem released_self (h : HandlePtr) :
    (g.released h).freed (g.current h) = g.freed (g.current h) + 1 :=
  Function.update_self _ _ _

theorem released_of_ne {h : HandlePtr} {n : SessionKey} (hne : n ≠ g.current h) :
    (g.released h).freed n = g.freed n :=
  Function.update_of_ne hne _ _

def tick (g : SessionLog) (s : ServerState) : RequestEvent → SessionLog
  | .loginmainserver _ h usrName password =>
      if authentication usrName.str password.str s.adp.usrs = .invalid then g else g.opened h
  | .loginoutmainserver t ssionID =>
      match s.handleOf ssionID with
      | none => g
      | some h => g.search t h
  | .delHandle t =>
      match s.requests t with
      | .delHandle h _ => if h ∈ s.adp.jsonListHead then g else g.answered t
      | _ => g
  | .free t =>
      match s.requests t with
      | .free h _ => (g.released h).answered t
      | _ => g
  | _ => g

end SessionLog

/-- A step, and what happened so far. -/
abbrev LoggedStep : ServerState × SessionLog → RequestEvent → ServerState × SessionLog → Prop :=
  stepWith SessionLog.tick RequestStep
/-! ## What a step does -/

/-- The lists and the threads before and after a step. -/
inductive StepCase (x : ServerState × SessionLog) :
    RequestEvent → ServerState × SessionLog → Prop
  | stay {e : RequestEvent} {y : ServerState × SessionLog}
      (hreq : y.1.requests = x.1.requests) (hlist : y.1.adp.jsonListHead = x.1.adp.jsonListHead)
      (halloc : y.1.allocated = x.1.allocated) (hlog : y.2 = x.2) : StepCase x e y
  /-- A login begins. -/
  | opens {e : RequestEvent} {y : ServerState × SessionLog} {t : ℕ} {h : HandlePtr}
      (he : e.thread = some t) (hpc : x.1.requests t = .idle) (hfresh : h ∉ x.1.allocated)
      (hreq : y.1.requests = Function.update x.1.requests t (.regist h))
      (hlist : y.1.adp.jsonListHead = x.1.adp.jsonListHead)
      (halloc : y.1.allocated = insert h x.1.allocated) (hlog : y.2 = x.2.opened h) :
      StepCase x e y
  /-- The thread goes on, or its request is over. -/
  | goes {e : RequestEvent} {y : ServerState × SessionLog} {t : ℕ} {pc : RequestPc}
      (he : e.thread = some t) (hreq : y.1.requests = Function.update x.1.requests t pc)
      (hhandle : pc.handle = none ∨ pc.handle = (x.1.requests t).handle)
      (howned : pc.owned = none ∨ pc.owned = (x.1.requests t).owned)
      (hfree : pc.freeing = none ∧ (x.1.requests t).freeing = none)
      (hout : pc.loggingOut = none ∨ pc.loggingOut = (x.1.requests t).loggingOut)
      (hun : pc.unRegistered = none ∨ e = .unRegistered t ∧
        pc.unRegistered = (x.1.requests t).handle)
      (hlist : y.1.adp.jsonListHead = x.1.adp.jsonListHead)
      (halloc : y.1.allocated = x.1.allocated) (hlog : y.2 = x.2) : StepCase x e y
  | command {y : ServerState × SessionLog} {t : ℕ} {ssionID : ℤ} {h : HandlePtr}
      (hpc : x.1.requests t = .idle) (hfound : x.1.handleOf ssionID = some h)
      (hreq : y.1.requests = Function.update x.1.requests t (.handler h))
      (hlist : y.1.adp.jsonListHead = x.1.adp.jsonListHead)
      (halloc : y.1.allocated = x.1.allocated) (hlog : y.2 = x.2) :
      StepCase x (.command t ssionID) y
  | loginOut {y : ServerState × SessionLog} {t : ℕ} {ssionID : ℤ} {h : HandlePtr}
      (hpc : x.1.requests t = .idle) (hfound : x.1.handleOf ssionID = some h)
      (hreq : y.1.requests = Function.update x.1.requests t (.loginOut h))
      (hlist : y.1.adp.jsonListHead = x.1.adp.jsonListHead)
      (halloc : y.1.allocated = x.1.allocated) (hlog : y.2 = x.2.search t h) :
      StepCase x (.loginoutmainserver t ssionID) y
  /-- A login enters its handle in the list. -/
  | enters {y : ServerState × SessionLog} {t : ℕ} {h : HandlePtr}
      (hpc : x.1.requests t = .login h)
      (hreq : y.1.requests = Function.update x.1.requests t (.listed h))
      (hlist : y.1.adp.jsonListHead = x.1.adp.jsonListHead ++ [h])
      (halloc : y.1.allocated = x.1.allocated) (hlog : y.2 = x.2) : StepCase x (.addHandle t) y
  /-- A logout takes its handle out of the list, -/
  | removes {y : ServerState × SessionLog} {t : ℕ} {h : HandlePtr} {iret : Bool}
      (hpc : x.1.requests t = .delHandle h iret) (hmem : h ∈ x.1.adp.jsonListHead)
      (hreq : y.1.requests = Function.update x.1.requests t (.free h iret))
      (hlist : y.1.adp.jsonListHead = x.1.adp.jsonListHead.erase h)
      (halloc : y.1.allocated = x.1.allocated) (hlog : y.2 = x.2) : StepCase x (.delHandle t) y
  /-- or does not find it there. -/
  | fails {y : ServerState × SessionLog} {t : ℕ} {h : HandlePtr} {iret : Bool}
      (hpc : x.1.requests t = .delHandle h iret) (hmem : h ∉ x.1.adp.jsonListHead)
      (hreq : y.1.requests = Function.update x.1.requests t .idle)
      (hlist : y.1.adp.jsonListHead = x.1.adp.jsonListHead)
      (halloc : y.1.allocated = x.1.allocated) (hlog : y.2 = x.2.answered t) :
      StepCase x (.delHandle t) y
  | frees {y : ServerState × SessionLog} {t : ℕ} {h : HandlePtr} {iret : Bool}
      (hpc : x.1.requests t = .free h iret)
      (hreq : y.1.requests = Function.update x.1.requests t .idle)
      (hlist : y.1.adp.jsonListHead = x.1.adp.jsonListHead)
      (halloc : y.1.allocated = x.1.allocated.erase h)
      (hlog : y.2 = (x.2.released h).answered t) : StepCase x (.free t) y

theorem adpStep_jsonListHead {s s' : AdpState} {e : AdpEvent} (h : adpStep s e = some s')
    (hlogin : ∀ p, e ≠ .funLogin p) (hlogout : ∀ p, e ≠ .funLoginOut p) :
    s'.jsonListHead = s.jsonListHead := by
  cases e with
  | funLogin p => exact absurd rfl (hlogin p)
  | funLoginOut p => exact absurd rfl (hlogout p)
  | users usrs =>
      cases h
      rfl
  | regist t p usrName passwd =>
      simp only [adpStep] at h
      split at h
      · unfold adpRegistHandle at h
        simp only at h
        split at h
        · cases h
          rfl
        · obtain ⟨info, -, rfl⟩ := Option.map_eq_some_iff.1 h
          rfl
      · cases h
  | increment t | wrap t | compose t | addHandle t =>
      simp only [adpStep] at h
      split at h <;> cases h
      rfl
  | search t | unRegist t p | delHandle t =>
      simp only [adpStep] at h
      split at h
      · split at h <;> cases h <;> rfl
      · cases h

theorem event_jsonListHead {s s' : AdpState} {stage : LoginStage} {t : ℕ}
    (h : adpStep s (stage.event t) = some s') : s'.jsonListHead = s.jsonListHead := by
  cases stage <;> exact adpStep_jsonListHead h (fun _ h => nomatch h) (fun _ h => nomatch h)

section

variable {x y : ServerState × SessionLog} {t : ℕ} {ssionID : ℤ}

theorem dispatch_cases {s s' : ServerState} {pc : HandlePtr → RequestPc}
    (h : dispatch s t ssionID pc = some s') : s.requests t = .idle ∧
      (s.handleOf ssionID = none ∧ s' = s ∨
        ∃ p, s.handleOf ssionID = some p ∧ s' = s.setRequest t (pc p)) := by
  unfold dispatch at h
  split at h
  · next hpc =>
      refine ⟨hpc, ?_⟩
      split at h <;> obtain rfl := Option.some.inj h
      · next hnone => exact Or.inl ⟨hnone, rfl⟩
      · next p hfound => exact Or.inr ⟨p, hfound, rfl⟩
  · cases h

/-- A step of a thread that leaves the lists alone. -/
theorem StepCase.of_goes {s : ServerState} {g : SessionLog} {e : RequestEvent} {pc pc' : RequestPc}
    {adp : AdpState} {m : Option ℕ} (he : e.thread = some t) (hpc : s.requests t = pc)
    (hadp : adp.jsonListHead = s.adp.jsonListHead)
    (hhandle : pc'.handle = none ∨ pc'.handle = pc.handle)
    (howned : pc'.owned = none ∨ pc'.owned = pc.owned)
    (hfree : pc'.freeing = none ∧ pc.freeing = none)
    (hout : pc'.loggingOut = none ∨ pc'.loggingOut = pc.loggingOut)
    (hun : pc'.unRegistered = none ∨ e = .unRegistered t ∧ pc'.unRegistered = pc.handle) :
    StepCase (s, g) e (({ s with adp, selfMutex := m } : ServerState).setRequest t pc', g) := by
  subst hpc
  exact .goes he rfl hhandle howned hfree hout hun hadp rfl rfl

theorem stepCase {e : RequestEvent} (h : LoggedStep x e y) : StepCase x e y := by
  obtain ⟨s, g⟩ := x
  obtain ⟨s', g'⟩ := y
  obtain ⟨hs, hg⟩ := h
  simp only at hs hg
  cases e with
  | users usrs =>
      obtain rfl := Option.some.inj hs
      exact .stay rfl rfl rfl hg
  | loginmainserver t h usrName password =>
      simp only [RequestStep, requestStep] at hs
      simp only [SessionLog.tick] at hg
      split at hs
      · next hpc =>
          obtain ⟨hfresh, hs⟩ := Option.ite_none_left_eq_some.1 hs
          obtain ⟨adp, hadp, heq⟩ := Option.map_eq_some_iff.1 hs
          have hlist := adpStep_jsonListHead hadp (fun _ h => nomatch h) (fun _ h => nomatch h)
          split at heq
          · next hauth =>
              subst heq
              exact .stay rfl hlist rfl (hg.trans (if_pos hauth))
          · next hauth =>
              subst heq
              exact .opens rfl hpc hfresh rfl hlist rfl (hg.trans (if_neg hauth))
      · cases hs
  | regist t =>
      simp only [RequestStep, requestStep] at hs
      split at hs
      · next h stage usr hpc _ =>
          obtain ⟨adp, hadp, heq⟩ := Option.map_eq_some_iff.1 hs
          have hlist := event_jsonListHead hadp
          split at heq <;> subst heq
          · subst hg
            exact .of_goes rfl hpc hlist (Or.inr rfl) (Or.inr rfl) ⟨rfl, rfl⟩ (Or.inl rfl) (Or.inl rfl)
          · exact .stay rfl hlist rfl hg
      · cases hs
  | addHandle t =>
      simp only [RequestStep, requestStep] at hs
      split at hs
      · next h hpc =>
          split at hs
          · obtain rfl := Option.some.inj hs
            subst hg
            exact .of_goes rfl hpc rfl (Or.inl rfl) (Or.inl rfl) ⟨rfl, rfl⟩ (Or.inl rfl) (Or.inl rfl)
          · obtain ⟨-, hs⟩ := Option.ite_none_left_eq_some.1 hs
            obtain rfl := Option.some.inj hs
            exact .enters hpc rfl rfl rfl hg
      · cases hs
  | command t ssionID =>
      obtain ⟨hpc, ⟨-, rfl⟩ | ⟨p, hfound, rfl⟩⟩ := dispatch_cases hs
      · exact .stay rfl rfl rfl hg
      · exact .command hpc hfound rfl rfl rfl hg
  | loginoutmainserver t ssionID =>
      simp only [SessionLog.tick] at hg
      obtain ⟨hpc, ⟨hnone, rfl⟩ | ⟨p, hfound, rfl⟩⟩ := dispatch_cases hs
      · rw [hnone] at hg
        exact .stay rfl rfl rfl hg
      · rw [hfound] at hg
        exact .loginOut hpc hfound rfl rfl rfl hg
  | answer t =>
      simp only [RequestStep, requestStep] at hs
      split at hs
      case h_3 => cases hs
      all_goals
        next h hpc =>
          obtain rfl := Option.some.inj hs
          subst hg
          exact .of_goes rfl hpc rfl (Or.inl rfl) (Or.inl rfl) ⟨rfl, rfl⟩ (Or.inl rfl) (Or.inl rfl)
  | lock t =>
      simp only [RequestStep, requestStep] at hs
      split at hs
      · next h hpc =>
          obtain ⟨-, hs⟩ := Option.ite_none_left_eq_some.1 hs
          obtain rfl := Option.some.inj hs
          subst hg
          exact .of_goes rfl hpc rfl (Or.inr rfl) (Or.inl rfl) ⟨rfl, rfl⟩ (Or.inr rfl) (Or.inl rfl)
      · cases hs
  | unRegist t =>
      simp only [RequestStep, requestStep] at hs
      split at hs
      · next h hpc =>
          obtain ⟨adp, hadp, heq⟩ := Option.map_eq_some_iff.1 hs
          have hlist := adpStep_jsonListHead hadp (fun _ h => nomatch h) (fun _ h => nomatch h)
          split at heq <;> subst heq
          · subst hg
            exact .of_goes rfl hpc hlist (Or.inr rfl) (Or.inl rfl) ⟨rfl, rfl⟩ (Or.inr rfl) (Or.inl rfl)
          · exact .stay rfl hlist rfl hg
      · cases hs
  | unRegistered t =>
      simp only [RequestStep, requestStep] at hs
      split at hs
      · next h hpc =>
          obtain ⟨adp, hadp, rfl⟩ := Option.map_eq_some_iff.1 hs
          have hlist := adpStep_jsonListHead hadp (fun _ h => nomatch h) (fun _ h => nomatch h)
          subst hg
          exact .of_goes rfl hpc hlist (Or.inr rfl) (Or.inl rfl) ⟨rfl, rfl⟩ (Or.inr rfl)
            (Or.inr ⟨rfl, rfl⟩)
      · cases hs
  | delHandle t =>
      simp only [RequestStep, requestStep] at hs
      simp only [SessionLog.tick] at hg
      split at hs
      · next h iret hpc =>
          simp only [hpc] at hg
          split at hs <;> obtain rfl := Option.some.inj hs
          · next hmem => exact .removes hpc hmem rfl rfl rfl (hg.trans (if_pos hmem))
          · next hmem => exact .fails hpc hmem rfl rfl rfl (hg.trans (if_neg hmem))
      · cases hs
  | free t =>
      simp only [RequestStep, requestStep] at hs
      simp only [SessionLog.tick] at hg
      split at hs
      · next h iret hpc =>
          simp only [hpc] at hg
          obtain rfl := Option.some.inj hs
          exact .frees hpc rfl rfl rfl hg
      · cases hs

theorem unRegistered_cases {s s' : ServerState} (h : RequestStep s (.unRegistered t) s') :
    ∃ p, s.requests t = .unRegist p ∧
      s'.requests = Function.update s.requests t (.delHandle p true) := by
  simp only [RequestStep, requestStep] at h
  split at h
  · next p hpc =>
      obtain ⟨adp, -, rfl⟩ := Option.map_eq_some_iff.1 h
      exact ⟨p, hpc, rfl⟩
  · cases h

theorem free_cases {s s' : ServerState} (h : RequestStep s (.free t) s') :
    ∃ p iret, s.requests t = .free p iret ∧
      s' = { s with allocated := s.allocated.erase p }.setRequest t .idle := by
  simp only [RequestStep, requestStep] at h
  split at h
  · next p iret hpc => exact ⟨p, iret, hpc, (Option.some.inj h).symm⟩
  · cases h

theorem handleOf_mem {s : JsonState} {h : HandlePtr} (hh : s.handleOf ssionID = some h) :
    h ∈ s.adp.jsonListHead := by
  unfold JsonState.handleOf at hh
  split at hh
  · exact mem_of_lookup hh
  · cases hh

end

end SmartPlat.JsonAPI
