import SmartPlat.JsonAPI.Proofs.FreedOnce
import SmartPlat.Adp.Proofs.SessionIds

set_option autoImplicit false

/-! # Handles of requests at the same time

A logout does not know of the other requests on its handle. It is safe exactly if it unregisters and
frees the handle while no other request is on it, and if no search finds a handle in between. -/

namespace SmartPlat.JsonAPI

open SmartPlat.Lib SmartPlat.UsrManage SmartPlat.Adp SmartPlat.Adp.AdpState

/-! ## The property and its condition -/

/-- No handler runs on a handle that is freed, or that the logout of another request has
    unregistered. -/
structure HandlesInUse (s : ServerState) : Prop where
  allocated : ∀ t h, (s.requests t).handle = some h → h ∈ s.allocated
  registered : ∀ t t' h, t' ≠ t → (s.requests t).handle = some h →
    (s.requests t').unRegistered ≠ some h

/-- No other request is on the handle of the request. -/
def Alone (s : ServerState) (t : ℕ) : Prop :=
  ∀ t', t' ≠ t → (s.requests t).handle ≠ none → (s.requests t').handle ≠ (s.requests t).handle

/-- A logout is alone on its handle when it unregisters it and when it frees it, and no search finds
    a handle that a logout has unregistered. -/
def Exclusive (x : ServerState × SessionLog) : RequestEvent → Prop
  | .command _ ssionID | .loginoutmainserver _ ssionID =>
      ∀ h ∈ x.1.handleOf ssionID, ∀ t, (x.1.requests t).unRegistered ≠ some h
  | .unRegistered t | .free t => Alone x.1 t
  | _ => True
section

variable {x y : ServerState × SessionLog} {t : ℕ} {ssionID : ℤ}

/-! ## Handlers -/

/-- One thread moves to `pc`. -/
theorem HandlesInUse.update {s s' : ServerState} {pc : RequestPc} (hI : HandlesInUse s)
    (hreq : s'.requests = Function.update s.requests t pc)
    (hkeep : ∀ t' h, t' ≠ t → (s.requests t').handle = some h → h ∈ s'.allocated)
    (hnew : ∀ h, pc.handle = some h →
      h ∈ s'.allocated ∧ ∀ t', t' ≠ t → (s.requests t').unRegistered ≠ some h)
    (hun : ∀ h, pc.unRegistered = some h → ∀ t', t' ≠ t → (s.requests t').handle ≠ some h) :
    HandlesInUse s' := by
  refine ⟨fun t₁ h h₁ => ?_, fun t₁ t₂ h hne h₁ h₂ => ?_⟩
  · rw [hreq, Function.update_apply] at h₁
    split at h₁
    · exact (hnew h h₁).1
    · next ht => exact hkeep t₁ h ht h₁
  · rw [hreq, Function.update_apply] at h₁ h₂
    split at h₁ <;> split at h₂
    · next ht₁ ht₂ => exact hne (ht₂.trans ht₁.symm)
    · next _ ht₂ => exact (hnew h h₁).2 t₂ ht₂ h₂
    · next ht₁ _ => exact hun h h₂ t₁ ht₁ h₁
    · exact hI.registered t₁ t₂ h hne h₁ h₂

theorem RequestPc.handle_of_unRegistered {pc : RequestPc} {h : HandlePtr}
    (hpc : pc.unRegistered = some h) : pc.handle = some h := by
  unfold RequestPc.unRegistered at hpc
  split at hpc
  · exact hpc
  · exact hpc
  · cases hpc

theorem Alone.handle_ne {s : ServerState} {h : HandlePtr} (ha : Alone s t)
    (hpc : (s.requests t).handle = some h) {t' : ℕ} (hne : t' ≠ t) :
    (s.requests t').handle ≠ some h := by
  rw [← hpc]
  exact ha t' hne (by rw [hpc]; exact Option.some_ne_none h)

theorem HandlesInUse.step {e : RequestEvent} (hI : HandlesInUse x.1) (hO : Owned x)
    (hex : Exclusive x e) (hs : StepCase x e y) : HandlesInUse y.1 := by
  cases hs with
  | stay hreq hlist halloc hlog =>
      constructor
      · rw [hreq, halloc]
        exact hI.allocated
      · rw [hreq]
        exact hI.registered
  | @opens _ _ t h _ hpc hfresh hreq hlist halloc hlog =>
      refine hI.update hreq (fun t' h' _ ht' => ?_) (fun h' hh' => ?_) (fun _ hh => nomatch hh)
      · rw [halloc]
        exact Finset.mem_insert_of_mem (hI.allocated t' h' ht')
      · obtain rfl : h = h' := Option.some.inj hh'
        rw [halloc]
        exact ⟨Finset.mem_insert_self _ _, fun t' _ ht' =>
          hfresh (hI.allocated t' h (RequestPc.handle_of_unRegistered ht'))⟩
  | @goes _ _ t pc he hreq hhandle _ _ _ hun hlist halloc _ =>
      refine hI.update hreq (fun t' h' _ ht' => ?_) (fun h' hh' => ?_) fun h' hh' => ?_
      · rw [halloc]
        exact hI.allocated t' h' ht'
      · have ht : (x.1.requests t).handle = some h' := by
          rcases hhandle with hnone | hsame
          · rw [hnone] at hh'
            cases hh'
          · rw [← hsame, hh']
        rw [halloc]
        exact ⟨hI.allocated t h' ht, fun t' hne => hI.registered t t' h' hne ht⟩
      · rcases hun with hnone | ⟨rfl, hsame⟩
        · rw [hnone] at hh'
          cases hh'
        · exact fun t' hne => hex.handle_ne (hsame.symm.trans hh') hne
  | command hpc hfound hreq hlist halloc _ | loginOut hpc hfound hreq hlist halloc _ =>
      refine hI.update hreq (fun t' h' _ ht' => ?_) (fun h' hh' => ?_) (fun _ hh => nomatch hh)
      · rw [halloc]
        exact hI.allocated t' h' ht'
      · obtain rfl := Option.some.inj hh'
        rw [halloc]
        exact ⟨hO.listed _ (handleOf_mem hfound), fun t' _ => hex _ hfound t'⟩
  | @enters _ t h hpc hreq hlist halloc _ =>
      have ht : (x.1.requests t).handle = some h := by rw [hpc, RequestPc.handle]
      refine hI.update hreq (fun t' h' _ ht' => ?_) (fun h' hh' => ?_) (fun _ hh => nomatch hh)
      · rw [halloc]
        exact hI.allocated t' h' ht'
      · obtain rfl : h = h' := Option.some.inj hh'
        rw [halloc]
        exact ⟨hI.allocated t h ht, fun t' hne => hI.registered t t' h hne ht⟩
  | @removes _ t h iret hpc hmem hreq hlist halloc _ =>
      have ht : (x.1.requests t).handle = some h := by rw [hpc, RequestPc.handle]
      refine hI.update hreq (fun t' h' _ ht' => ?_) (fun h' hh' => ?_) fun h' hh' t' hne ht' => ?_
      · rw [halloc]
        exact hI.allocated t' h' ht'
      · obtain rfl : h = h' := Option.some.inj hh'
        rw [halloc]
        exact ⟨hI.allocated t h ht, fun t' hne => hI.registered t t' h hne ht⟩
      · have hsame : (RequestPc.free h iret).unRegistered =
            (RequestPc.delHandle h iret).unRegistered := by
          cases iret <;> rfl
        refine hI.registered t' t h' hne.symm ht' ?_
        rw [hpc, ← hsame, hh']
  | fails hpc hmem hreq hlist halloc _ =>
      refine hI.update hreq (fun t' h' _ ht' => ?_) (fun _ hh => nomatch hh) (fun _ hh => nomatch hh)
      rw [halloc]
      exact hI.allocated t' h' ht'
  | @frees _ t h iret hpc hreq hlist halloc _ =>
      have ht : (x.1.requests t).handle = some h := by rw [hpc, RequestPc.handle]
      refine hI.update hreq (fun t' h' hne ht' => ?_) (fun _ hh => nomatch hh)
        (fun _ hh => nomatch hh)
      rw [halloc]
      refine Finset.mem_erase.2 ⟨?_, hI.allocated t' h' ht'⟩
      -- a handle that is freed is in use by this request alone
      rintro rfl
      exact hex.handle_ne ht hne ht'

theorem HandlesInUse.dispatch_ne {s s' : ServerState} {pc : HandlePtr → RequestPc}
    (hI : HandlesInUse s') (hpc : ∀ p, (pc p).handle = some p)
    (hs : dispatch s t ssionID pc = some s') :
    ∀ h ∈ s.handleOf ssionID, ∀ t', (s.requests t').unRegistered ≠ some h := by
  intro h hfound t' ht'
  obtain ⟨hidle, ⟨hnone, -⟩ | ⟨p, hp, rfl⟩⟩ := dispatch_cases hs
  · rw [hfound] at hnone
    cases hnone
  · obtain rfl : h = p := Option.some.inj (hfound.symm.trans hp)
    have hne : t' ≠ t := by
      rintro rfl
      rw [hidle] at ht'
      cases ht'
    refine hI.registered t t' h hne ?_ ?_
    · rw [setRequest_self, hpc]
    · rw [setRequest_of_ne _ _ hne, ht']

/-- A step that does not meet the condition leaves a handler on a handle it should not use. -/
theorem HandlesInUse.exclusive {e : RequestEvent} (hI : HandlesInUse y.1)
    (hs : LoggedStep x e y) : Exclusive x e := by
  obtain ⟨hs, -⟩ := hs
  cases e with
  | command t ssionID => exact hI.dispatch_ne (fun _ => rfl) hs
  | loginoutmainserver t ssionID => exact hI.dispatch_ne (fun _ => rfl) hs
  | unRegistered t =>
      obtain ⟨p, hpc, hreq⟩ := unRegistered_cases hs
      intro t' hne _ ht'
      rw [hpc] at ht'
      refine hI.registered t' t p hne.symm ?_ ?_
      · rw [hreq, Function.update_of_ne hne, ht', RequestPc.handle]
      · rw [hreq, Function.update_self, RequestPc.unRegistered]
  | free t =>
      obtain ⟨p, iret, hpc, heq⟩ := free_cases hs
      intro t' hne _ ht'
      rw [hpc] at ht'
      have hin := hI.allocated t' p (by
        rw [heq, setRequest_of_ne _ _ hne]
        exact ht')
      rw [heq] at hin
      exact Finset.notMem_erase p _ hin
  | _ => trivial

end

/-! ## Runs -/

section Runs

variable {adp : AdpState} {allocated : Finset HandlePtr} {tr : List RequestEvent}
  {x : ServerState × SessionLog}

theorem handlesInUse_init : HandlesInUse (.init adp allocated) where
  allocated _ _ hh := nomatch hh
  registered _ _ _ _ hh := nomatch hh

theorem loggedStep_deterministic (x : ServerState × SessionLog) (e : RequestEvent)
    (y z : ServerState × SessionLog) (hy : LoggedStep x e y) (hz : LoggedStep x e z) : y = z :=
  Prod.ext (Option.some.inj (hy.1.symm.trans hz.1)) (hy.2.trans hz.2.symm)

/-- **No handler runs on a handle that is logged out**, and a session is freed once, in every state of
    a run, exactly when logouts are alone on their handles at the steps that matter. -/
theorem handlesInUse_iff (h : Run LoggedStep (.init adp allocated, .empty) tr x) :
    (∀ pre y, pre <+: tr → Run LoggedStep (.init adp allocated, .empty) pre y →
        HandlesInUse y.1 ∧ FreedOnce y) ↔
      Run (stepWhen Exclusive LoggedStep) (.init adp allocated, .empty) tr x :=
  Run.always_iff (fun x => HandlesInUse x.1 ∧ Owned x ∧ Sessions x) loggedStep_deterministic
    ⟨handlesInUse_init, owned_init, sessions_init⟩ (fun _ hI => ⟨hI.1, hI.2.2.freedOnce⟩)
    (fun _ _ _ hI hex hs =>
      have hcase := stepCase hs
      ⟨hI.1.step hI.2.1 hex hcase, hI.2.1.step hcase, hI.2.2.step hI.2.1 hcase⟩)
    (fun _ _ _ _ hex hs hP => hex (hP.1.exclusive hs)) h

/-- A step moves no other thread. -/
theorem StepCase.requests_of_ne {y : ServerState × SessionLog} {e : RequestEvent} {t : ℕ}
    (hs : StepCase x e y) (he : e.thread ≠ some t) : y.1.requests t = x.1.requests t := by
  cases hs with
  | stay hreq => rw [hreq]
  | opens ht _ _ hreq | goes ht hreq =>
      rw [hreq, Function.update_of_ne]
      rintro rfl
      exact he ht
  | command _ _ hreq | loginOut _ _ hreq | enters _ hreq | removes _ _ hreq | fails _ _ hreq
  | frees _ hreq =>
      rw [hreq, Function.update_of_ne]
      rintro rfl
      exact he rfl

/-- A request of `t'` is in the way of a step of another thread. -/
def inTheWay (s : ServerState) (t' : ℕ) : RequestEvent → Bool
  | .command _ ssionID | .loginoutmainserver _ ssionID =>
      (s.handleOf ssionID).any fun h => (s.requests t').unRegistered = some h
  | .unRegistered t | .free t =>
      (s.requests t).handle ≠ none ∧ (s.requests t').handle = (s.requests t).handle
  | _ => false

/-- No request of the first `n` threads is in the way. -/
def ClearBelow (n : ℕ) (x : ServerState × SessionLog) (e : RequestEvent) : Prop :=
  ∀ t' < n, some t' ≠ e.thread → inTheWay x.1 t' e = false

instance (n : ℕ) (x : ServerState × SessionLog) (e : RequestEvent) : Decidable (ClearBelow n x e) :=
  inferInstanceAs (Decidable (∀ t' < n, _))

theorem inTheWay_idle {s : ServerState} {t' : ℕ} (h : s.requests t' = .idle) (e : RequestEvent) :
    inTheWay s t' e = false := by
  cases e <;> simp +contextual [inTheWay, h, RequestPc.handle, RequestPc.unRegistered, eq_comm]

theorem exclusive_of_clear {x y : ServerState × SessionLog} {e : RequestEvent} (hs : LoggedStep x e y)
    (h : ∀ t', some t' ≠ e.thread → inTheWay x.1 t' e = false) : Exclusive x e := by
  cases e with
  | command t ssionID | loginoutmainserver t ssionID =>
      intro handle hfound t' hun
      obtain ⟨hpc, -⟩ := dispatch_cases hs.1
      by_cases ht : t' = t
      · rw [ht, hpc] at hun
        cases hun
      · have hclear := h t' fun heq => ht (Option.some.inj heq)
        rw [inTheWay, Option.mem_def.1 hfound, Option.any_some, decide_eq_false_iff_not] at hclear
        exact hclear hun
  | unRegistered t | free t =>
      intro t' hne hheld heq
      have hclear := h t' fun heq' => hne (Option.some.inj heq')
      rw [inTheWay, decide_eq_false_iff_not] at hclear
      exact hclear ⟨hheld, heq⟩
  | _ => trivial

/-- Requests of the first `n` threads meet the condition if these threads are out of the way. -/
theorem exclusive_of_clearBelow {n : ℕ} (htr : ∀ e ∈ tr, ∀ t ∈ e.thread, t < n)
    (h : Run (stepWhen (ClearBelow n) LoggedStep) (.init adp allocated, .empty) tr x) :
    Run (stepWhen Exclusive LoggedStep) (.init adp allocated, .empty) tr x ∧
      ∀ t', n ≤ t' → x.1.requests t' = .idle := by
  induction h with
  | nil => exact ⟨.nil, fun _ _ => rfl⟩
  | @snoc tr x y e _ hs ih =>
      obtain ⟨hrun, hidle⟩ := ih fun e he => htr e (List.mem_append_left _ he)
      have he : ∀ t ∈ e.thread, t < n := htr e List.mem_concat_self
      refine ⟨hrun.snoc ⟨exclusive_of_clear hs.2 fun t' hne => ?_, hs.2⟩, fun t' hle => ?_⟩
      · rcases Nat.lt_or_ge t' n with hlt | hge
        · exact hs.1 t' hlt hne
        · exact inTheWay_idle (hidle t' hge) e
      · rw [(stepCase hs.2).requests_of_ne fun ht' => Nat.not_lt.2 hle (he t' ht'), hidle t' hle]

def evalLogged (x : ServerState × SessionLog) (e : RequestEvent) :
    Option (ServerState × SessionLog) :=
  (requestStep x.1 e).map fun s' => (s', x.2.tick x.1 e)

theorem loggedStep_of_eval {x y : ServerState × SessionLog} {e : RequestEvent}
    (h : evalLogged x e = some y) : LoggedStep x e y := by
  obtain ⟨s', hs, rfl⟩ := Option.map_eq_some_iff.1 h
  exact ⟨hs, rfl⟩

/-- `alice` logs in on handle 7. -/
def sampleSession : List RequestEvent :=
  [.loginmainserver 0 7 alice.usrname alice.passWord, .regist 0, .regist 0, .regist 0, .regist 0,
    .regist 0, .addHandle 0, .answer 0]

/-- She logs out. -/
def sampleLogout (t : ℕ) : List RequestEvent :=
  [.loginoutmainserver t (composeID alice.userLevel 1), .lock t, .unRegist t, .unRegistered t,
    .delHandle t, .free t]

/-- `bob` logs in on handle 8, and out again on the thread of his login. -/
def bobSession : List RequestEvent :=
  [.loginmainserver 1 8 bob.usrname bob.passWord, .regist 1, .regist 1, .regist 1, .regist 1,
    .regist 1, .addHandle 1, .answer 1]

/-- Her command is under way on one thread while another handles his login, and his command while she
    logs out. -/
def twoThreads : List RequestEvent :=
  sampleSession ++ [.command 0 (composeID alice.userLevel 1)] ++ bobSession ++
    [.answer 0, .command 1 (composeID bob.userLevel 2)] ++ sampleLogout 0 ++ [.answer 1]

theorem handlesInUse_two :
    ∃ x, Run (stepWhen Exclusive LoggedStep) (.init (.init [alice, bob]) ∅, .empty) twoThreads x ∧
      x.1.allocated = {8} ∧ ∀ pre y, pre <+: twoThreads →
        Run LoggedStep (.init (.init [alice, bob]) ∅, .empty) pre y → HandlesInUse y.1 ∧ FreedOnce y := by
  obtain ⟨x, hrun, hallocated⟩ : ∃ x, Run (stepWhen (ClearBelow 2) LoggedStep)
      (.init (.init [alice, bob]) ∅, .empty) twoThreads x ∧ x.1.allocated = {8} :=
    Run.exists_of_eval (stepWhen_of_eval (f := evalLogged) fun _ _ _ h => loggedStep_of_eval h)
      (by decide)
  have hthreads : ∀ e ∈ twoThreads, ∀ t ∈ e.thread, t < 2 := by decide
  have hexcl := (exclusive_of_clearBelow hthreads hrun).1
  exact ⟨x, hexcl, hallocated, (handlesInUse_iff (hexcl.mono fun _ _ _ hs => hs.2)).2 hexcl⟩

/-- Her logout frees the handle while another thread handles a command of hers. -/
theorem handler_on_freed_handle :
    ∃ x, Run LoggedStep (.init (.init [alice]) ∅, .empty)
        (sampleSession ++ .command 1 (composeID alice.userLevel 1) :: sampleLogout 2) x ∧
      x.1.requests 1 = .handler 7 ∧ 7 ∉ x.1.allocated ∧ ¬ HandlesInUse x.1 := by
  obtain ⟨x, hrun, hpc, hfree⟩ : ∃ x, Run LoggedStep (.init (.init [alice]) ∅, .empty)
      (sampleSession ++ .command 1 (composeID alice.userLevel 1) :: sampleLogout 2) x ∧
      x.1.requests 1 = .handler 7 ∧ 7 ∉ x.1.allocated :=
    Run.exists_of_eval (fun _ _ _ h => loggedStep_of_eval h) (by decide)
  exact ⟨x, hrun, hpc, hfree, fun hI => hfree (hI.allocated 1 7 (by rw [hpc, RequestPc.handle]))⟩

end Runs

end SmartPlat.JsonAPI
