import SmartPlat.Adp.Proofs.SessionInvariant
import SmartPlat.UsrManage.Proofs.Accounts

set_option autoImplicit false

/-! # Session ids are unique

As long as one thread at a time is in `MakeUsrID`, each handle is logged in once, and the counter does
not come round to the number of a session of the same level that is still there. -/

namespace SmartPlat.Adp

open SmartPlat.Lib SmartPlat.UsrManage

/-! ## Runs -/

/-- What the sessions of a state should be: no two share an id; the lookup by the id of a session
    gives that session, whose handle carries its user's name and the functions of their level; and a
    request that names a session is served on the handle of that session. -/
structure SessionsDistinct (s : AdpState) : Prop where
  ids : (s.listUsrRegistHead.map s.sessionID).Nodup
  lookup : ∀ usr ∈ s.listUsrRegistHead,
    s.getUsrRegistInfo (s.sessionID usr) = some usr ∧ Opened s.handles usr
  request : ∀ ssionID h, ssionID ≠ 0 → s.jsonSwitchHandle ssionID = some h →
    ∃ usr ∈ s.listUsrRegistHead, usr.apiHandle = h ∧ s.getUsrRegistInfo ssionID = some usr

theorem sessionInv_init (usrs : List UsrInfo) :
    SessionInv (.init usrs) ⟨0, fun _ => 0⟩ where
  exclusive _ _ _ h _ := h.elim
  handles := List.nodup_nil
  threads _ := trivial
  opened _ h := absurd h List.not_mem_nil
  counter := rfl
  ids :=
    { id := fun _ h => h.elim (fun h => absurd h List.not_mem_nil) fun ⟨_, h⟩ => by cases h
      fresh := fun _ _ h => h.elim (fun h => absurd h List.not_mem_nil) fun ⟨_, h⟩ => by cases h
      clear := fun _ h => absurd rfl h }

theorem SessionInv.distinct {s : AdpState} {c : Clock} (hi : SessionInv s c) :
    SessionsDistinct s := by
  have hids : (s.listUsrRegistHead.map s.sessionID).Nodup :=
    List.Nodup.map_on (fun r hr r' hr' heq => List.inj_on_of_nodup_map hi.handles hr hr'
      (hi.ids.handle_eq (.inl hr) (.inl hr') heq)) (List.Nodup.of_map _ hi.handles)
  refine ⟨hids, fun usr hu => ⟨lookup_of_mem hids hu, hi.opened usr hu⟩, ?_⟩
  intro ssionID h hne hfound
  have hmem := mem_of_lookup hfound
  have hid := key_of_lookup hfound
  obtain ⟨usr, hu | ⟨t, ht⟩, rfl⟩ := hi.ids.clear h (by rw [hid]; exact hne)
  · exact ⟨usr, hu, rfl, by rw [← hid]; exact lookup_of_mem hids hu⟩
  · -- a session about to enter the list is not in the JSON list yet
    exact absurd hmem (hi.thread ht).2.1

/-- **Session ids are unique** in every state an interleaving of orderly logins and logouts reaches,
    whatever their number and whatever happens to the users meanwhile. -/
theorem sessionsDistinct {usrs : List UsrInfo} {tr : List AdpEvent} {s : AdpState} {c : Clock}
    (h : Run (stepWhen Orderly ClockedStep) (.init usrs, ⟨0, fun _ => 0⟩) tr (s, c)) :
    SessionsDistinct s := by
  refine (h.stateInvariant (fun x => SessionInv x.1 x.2) (sessionInv_init usrs) ?_).distinct
  intro ⟨s, c⟩ e ⟨s', c'⟩ hi ⟨hord, hs, hc⟩
  obtain rfl : c' = c.tick s e := hc
  exact hi.step hord hs

/-! ## A login that nothing interrupts -/

/-- The functions on the handle of `usr` once they have logged in. -/
def AdpState.installed (s : AdpState) (usr : AdpUsrRegistInfo) : Finset AdpFunction :=
  installFunctions usr.usrInfo.userLevel
    (initNoAuthorFunctions (s.handles usr.apiHandle).functions)

/-- In the middle of a login of `usr` by thread `0`: the counter is `n`, the id on the handle
    `usrID`. -/
def AdpState.midLogin (s : AdpState) (usr : AdpUsrRegistInfo) (stage : LoginStage) (n usrID : ℕ) :
    AdpState :=
  { s with
    usrID := n
    handles := Function.update s.handles usr.apiHandle
      ⟨usrID, usr.usrInfo.usrname, s.installed usr⟩
    threads := Function.update s.threads 0 (.login stage usr) }

/-- At the end of it. -/
def AdpState.loggedIn (s : AdpState) (usr : AdpUsrRegistInfo) (n : ℕ) : AdpState :=
  { s with
    usrID := n
    handles := Function.update s.handles usr.apiHandle
      ⟨composeID usr.usrInfo.userLevel n, usr.usrInfo.usrname, s.installed usr⟩
    listUsrRegistHead := s.listUsrRegistHead ++ [usr] }

section Login

variable {s : AdpState} {c : Clock} {usr : AdpUsrRegistInfo} {passwd : CString} {n usrID : ℕ}
  {stage : LoginStage}

@[simp]
theorem midLogin_self : (s.midLogin usr stage n usrID).threads 0 = .login stage usr := by
  simp [AdpState.midLogin]

theorem midLogin_of_ne {t : ℕ} (ht : t ≠ 0) :
    (s.midLogin usr stage n usrID).threads t = s.threads t := by
  simp [AdpState.midLogin, ht]

theorem step_regist (hidle : s.threads 0 = .idle)
    (hauth : authentication usr.usrInfo.name passwd s.usrs = usr.usrInfo.userLevel)
    (hlevel : usr.usrInfo.userLevel ≠ .invalid)
    (hfound : findByName usr.usrInfo.name s.usrs = some usr.usrInfo) :
    AdpStep s (.regist 0 usr.apiHandle usr.usrInfo.name passwd)
      (s.midLogin usr .registered s.usrID 0) := by
  simp only [AdpStep, adpStep, hidle, adpRegistHandle, hauth, if_neg hlevel, snprintf_str, hfound]
  rfl

theorem step_increment : AdpStep (s.midLogin usr .registered n usrID) (.increment 0)
    (s.midLogin usr .incremented (n + 1) usrID) := by
  simp [AdpStep, adpStep, AdpState.midLogin, AdpState.setThread]

theorem step_wrap : AdpStep (s.midLogin usr .incremented n usrID) (.wrap 0)
    (s.midLogin usr .wrapped (n % 10000) usrID) := by
  simp [AdpStep, adpStep, AdpState.midLogin, AdpState.setThread]

theorem step_search (hnone : (s.midLogin usr .wrapped n usrID).getUsrRegistInfo n = none) :
    AdpStep (s.midLogin usr .wrapped n usrID) (.search 0) (s.midLogin usr .searched n usrID) := by
  have hcounter : (s.midLogin usr .wrapped n usrID).usrID = n := rfl
  simp only [AdpStep, adpStep, midLogin_self, hcounter, hnone]
  simp [AdpState.midLogin, AdpState.setThread]

theorem step_compose : AdpStep (s.midLogin usr .searched n usrID) (.compose 0)
    (s.midLogin usr .composed n (composeID usr.usrInfo.userLevel n)) := by
  simp [AdpStep, adpStep, AdpState.midLogin, AdpState.setThread, AdpState.setHandle]

theorem step_addHandle (hidle : s.threads 0 = .idle) :
    AdpStep (s.midLogin usr .composed n (composeID usr.usrInfo.userLevel n)) (.addHandle 0)
      (s.loggedIn usr n) := by
  have hback : Function.update s.threads 0 .idle = s.threads := by
    rw [← hidle, Function.update_eq_self]
  simp [AdpStep, adpStep, AdpState.midLogin, AdpState.loggedIn, AdpState.setThread, hback]

/-- A login while no other thread does anything gets the next value of the counter; it is orderly,
    where that is asked, if no session of its level has that number. -/
theorem run_login {p : Prop} (hidle : ∀ t, s.threads t = .idle)
    (hlive : ∀ r ∈ s.listUsrRegistHead, r.apiHandle ≠ usr.apiHandle)
    (hjson : usr.apiHandle ∉ s.jsonListHead) (hclear : (s.handles usr.apiHandle).functions = ∅)
    (hauth : authentication usr.usrInfo.name passwd s.usrs = usr.usrInfo.userLevel)
    (hlevel : usr.usrInfo.userLevel ≠ .invalid)
    (hfound : findByName usr.usrInfo.name s.usrs = some usr.usrInfo)
    (hnone : s.getUsrRegistInfo ((s.usrID + 1) % 10000) = none)
    (hfresh : p → ∀ r ∈ s.listUsrRegistHead, r.usrInfo.userLevel = usr.usrInfo.userLevel →
      c.serial r.apiHandle % 10000 ≠ (c.calls + 1) % 10000) :
    Run (stepWhen (fun x e => p → Orderly x e) ClockedStep) (s, c)
      [.regist 0 usr.apiHandle usr.usrInfo.name passwd, .increment 0, .wrap 0, .search 0,
        .compose 0, .addHandle 0]
      (s.loggedIn usr ((s.usrID + 1) % 10000),
        ⟨c.calls + 1, Function.update c.serial usr.apiHandle (c.calls + 1)⟩) := by
  have hsearch : ∀ {n usrID}, s.getUsrRegistInfo n = none →
      (s.midLogin usr .wrapped n usrID).getUsrRegistInfo n = none := by
    intro n usrID hnone
    refine lookup_eq_none.2 fun r hr => ?_
    have hsame : (s.midLogin usr .wrapped n usrID).sessionID r = s.sessionID r :=
      congrArg AdpAPIHandle.usrID (Function.update_of_ne (hlive r hr) _ _)
    rw [hsame]
    exact lookup_eq_none.1 hnone r hr
  have hregist : Orderly (s, c) (.regist 0 usr.apiHandle usr.usrInfo.name passwd) := by
    refine ⟨fun t hu => ?_, hlive, hjson, fun _ => ?_⟩
    · rw [hidle t] at hu
      exact hu
    · rw [hclear]
      exact Finset.empty_subset _
  have hincrement : Orderly (s.midLogin usr .registered s.usrID 0, c) (.increment 0) := by
    intro t hu
    by_cases ht : t = 0
    · subst ht
      simp [AdpPc.Uses] at hu
    · rw [midLogin_of_ne ht, hidle t] at hu
      exact hu
  have hcompose : p → Orderly (s.midLogin usr .searched ((s.usrID + 1) % 10000) 0,
      { c with calls := c.calls + 1 }) (.compose 0) := by
    rintro hp u hu r (hr | ⟨t, ht⟩) hsame
    · rw [midLogin_self, AdpPc.login.injEq] at hu
      exact hfresh hp r hr (by rw [hsame, hu.2])
    · by_cases ht0 : t = 0
      · subst ht0
        simp at ht
      · rw [midLogin_of_ne ht0, hidle t] at ht
        cases ht
  let step := stepWhen (fun x e => p → Orderly x e) ClockedStep
  let c' : Clock := { c with calls := c.calls + 1 }
  let n := (s.usrID + 1) % 10000
  have h₁ : step (s, c) (.regist 0 _ _ passwd) (s.midLogin usr .registered s.usrID 0, c) :=
    ⟨fun _ => hregist, step_regist (hidle 0) hauth hlevel hfound, rfl⟩
  have h₂ : step (_, c) (.increment 0) (s.midLogin usr .incremented (s.usrID + 1) 0, c') :=
    ⟨fun _ => hincrement, step_increment, rfl⟩
  have h₃ : step (_, c') (.wrap 0) (s.midLogin usr .wrapped n 0, c') :=
    ⟨fun _ => trivial, step_wrap, rfl⟩
  have h₄ : step (_, c') (.search 0) (s.midLogin usr .searched n 0, c') :=
    ⟨fun _ => trivial, step_search (hsearch hnone), rfl⟩
  have h₅ : step (_, c') (.compose 0) (s.midLogin usr .composed n _,
      ⟨c.calls + 1, Function.update c.serial usr.apiHandle (c.calls + 1)⟩) :=
    ⟨hcompose, step_compose, by simp only [Clock.tick, midLogin_self, c']⟩
  exact (((((Run.nil.snoc h₁).snoc h₂).snoc h₃).snoc h₄).snoc h₅).snoc
    ⟨fun _ => trivial, step_addHandle (hidle 0), rfl⟩

end Login

/-! ## Concrete logins -/

/-- The sessions of Alice, who logs in first, and of Bob, who does it ever after. -/
def sampleSession (k : ℕ) : AdpUsrRegistInfo := ⟨k, if k = 0 then alice else bob⟩

/-- After `n` logins, each on a new handle. -/
structure AfterLogins (n : ℕ) (s : AdpState) (c : Clock) : Prop where
  users : s.usrs = [alice, bob]
  quiet : ∀ t, s.threads t = .idle
  json : s.jsonListHead = []
  counter : s.usrID = n % 10000
  list : s.listUsrRegistHead = (List.range n).map sampleSession
  ids : ∀ k < n, (s.handles k).usrID = composeID .operator ((k + 1) % 10000)
  /-- No handle without a login has any function. -/
  clear : ∀ k, n ≤ k → (s.handles k).functions = ∅
  calls : c.calls = n
  serial : ∀ k < n, c.serial k = k + 1

theorem authentication_sample (k : ℕ) :
    authentication (sampleSession k).usrInfo.name (sampleSession k).usrInfo.passWord.str
      [alice, bob] = .operator := by
  unfold sampleSession
  split <;> rfl

theorem findByName_sample (k : ℕ) :
    findByName (sampleSession k).usrInfo.name [alice, bob] = some (sampleSession k).usrInfo := by
  unfold sampleSession
  split <;> rfl

theorem level_sample (k : ℕ) : (sampleSession k).usrInfo.userLevel = .operator := by
  unfold sampleSession
  split <;> rfl

theorem AfterLogins.eq_sample {n : ℕ} {s : AdpState} {c : Clock} (hs : AfterLogins n s c)
    {r : AdpUsrRegistInfo} (hr : r ∈ s.listUsrRegistHead) : ∃ k < n, r = sampleSession k := by
  rw [hs.list, List.mem_map] at hr
  obtain ⟨k, hk, rfl⟩ := hr
  exact ⟨k, List.mem_range.1 hk, rfl⟩

/-- The ids are too large for the counter to be found among them. -/
theorem AfterLogins.getUsrRegistInfo_counter {n : ℕ} {s : AdpState} {c : Clock}
    (hs : AfterLogins n s c) (m : ℕ) : s.getUsrRegistInfo (m % 10000) = none := by
  refine lookup_eq_none.2 fun r hr heq => ?_
  obtain ⟨k, hk, rfl⟩ := hs.eq_sample hr
  have hid : s.sessionID (sampleSession k) = composeID .operator ((k + 1) % 10000) := hs.ids k hk
  have := composeID_large (by decide : UsrLevel.operator ≠ .invalid)
    (Nat.mod_lt (k + 1) (by decide : 0 < 10000))
  rw [hid] at heq
  omega

/-- One more login, which gets the next number; the first 10000 are orderly. -/
theorem AfterLogins.login {n : ℕ} {s : AdpState} {c : Clock} (hs : AfterLogins n s c) :
    ∃ tr s' c', Run (stepWhen (fun x e => n < 10000 → Orderly x e) ClockedStep) (s, c) tr (s', c') ∧
      AfterLogins (n + 1) s' c' := by
  have hfresh : n < 10000 → ∀ r ∈ s.listUsrRegistHead,
      r.usrInfo.userLevel = (sampleSession n).usrInfo.userLevel →
      c.serial r.apiHandle % 10000 ≠ (c.calls + 1) % 10000 := by
    intro hn r hr _
    obtain ⟨k, hk, rfl⟩ := hs.eq_sample hr
    have hserial : c.serial (sampleSession k).apiHandle = k + 1 := hs.serial k hk
    rw [hserial, hs.calls]
    omega
  have hlive : ∀ r ∈ s.listUsrRegistHead, r.apiHandle ≠ (sampleSession n).apiHandle := by
    intro r hr
    obtain ⟨k, hk, rfl⟩ := hs.eq_sample hr
    exact Nat.ne_of_lt hk
  have hrun := run_login hs.quiet hlive (by simp [hs.json]) (hs.clear n le_rfl)
    (by rw [hs.users, authentication_sample, level_sample]) (by rw [level_sample]; decide)
    (by rw [hs.users, findByName_sample]) (hs.getUsrRegistInfo_counter _) hfresh
  have hcounter : (s.usrID + 1) % 10000 = (n + 1) % 10000 := by
    have := hs.counter
    omega
  refine ⟨_, _, _, hrun, hs.users, hs.quiet, hs.json, hcounter, ?_, fun k hk => ?_,
    fun k hk => ?_, congrArg (· + 1) hs.calls, fun k hk => ?_⟩
  · rw [List.range_succ, List.map_append, ← hs.list]
    rfl
  · rcases Nat.lt_succ_iff_lt_or_eq.1 hk with hk | rfl
    · rw [← hs.ids k hk]
      exact congrArg AdpAPIHandle.usrID (Function.update_of_ne (Nat.ne_of_lt hk) _ _)
    · rw [← hcounter, ← level_sample k]
      exact congrArg AdpAPIHandle.usrID (Function.update_self k _ s.handles)
  · rw [← hs.clear k (Nat.le_of_succ_le hk)]
    exact congrArg AdpAPIHandle.functions (Function.update_of_ne (Nat.ne_of_gt hk) _ _)
  · rcases Nat.lt_succ_iff_lt_or_eq.1 hk with hk | rfl
    · exact (Function.update_of_ne (Nat.ne_of_lt hk) _ _).trans (hs.serial k hk)
    · exact (Function.update_self _ _ _).trans (congrArg (· + 1) hs.calls)

theorem exists_afterLogins (n : ℕ) : ∃ tr s c,
    Run (stepWhen (fun x e => n ≤ 10000 → Orderly x e) ClockedStep)
      (.init [alice, bob], ⟨0, fun _ => 0⟩) tr (s, c) ∧ AfterLogins n s c := by
  induction n with
  | zero =>
      exact ⟨[], _, _, .nil, rfl, fun _ => rfl, rfl, rfl, rfl,
        fun k hk => absurd hk (Nat.not_lt_zero k), fun _ _ => rfl, rfl,
        fun k hk => absurd hk (Nat.not_lt_zero k)⟩
  | succ n ih =>
      obtain ⟨tr, s, c, hrun, hs⟩ := ih
      obtain ⟨tr', s', c', hlogin, hs'⟩ := hs.login
      refine ⟨_, s', c', Run.append (hrun.mono ?_) hlogin, hs'⟩
      rintro x e y ⟨hord, hstep⟩
      exact ⟨fun hn => hord (by omega), hstep⟩

/-- Ten thousand logins, one after the other, have ten thousand different ids. -/
theorem sessionsDistinct_ten_thousand :
    ∃ tr s c, Run (stepWhen Orderly ClockedStep) (.init [alice, bob], ⟨0, fun _ => 0⟩) tr (s, c) ∧
      s.listUsrRegistHead.length = 10000 ∧ SessionsDistinct s := by
  obtain ⟨tr, s, c, hrun, hs⟩ := exists_afterLogins 10000
  have hord : Run (stepWhen Orderly ClockedStep) (.init [alice, bob], ⟨0, fun _ => 0⟩) tr (s, c) :=
    hrun.mono fun _ _ _ h => ⟨h.1 le_rfl, h.2⟩
  refine ⟨tr, s, c, hord, ?_, sessionsDistinct hord⟩
  rw [hs.list, List.length_map, List.length_range]

/-- With one login more, the last session has the id of the first: a lookup by the id of Bob's
    session gives Alice's. -/
theorem logins_come_round :
    ∃ tr s, Run AdpStep (.init [alice, bob]) tr s ∧
      ¬ (s.listUsrRegistHead.map s.sessionID).Nodup ∧
      ∃ usr ∈ s.listUsrRegistHead, usr.usrInfo = bob ∧
        s.getUsrRegistInfo (s.sessionID usr) = some ⟨0, alice⟩ := by
  obtain ⟨tr, s, c, hrun, hs⟩ := exists_afterLogins 10001
  have hmem : sampleSession 10000 ∈ s.listUsrRegistHead := by
    rw [hs.list]
    exact List.mem_map_of_mem (List.mem_range.2 (by decide))
  have hid : s.sessionID (sampleSession 0) = s.sessionID (sampleSession 10000) :=
    (hs.ids 0 (by decide)).trans (hs.ids 10000 (by decide)).symm
  have hfound : s.getUsrRegistInfo (s.sessionID (sampleSession 10000)) = some ⟨0, alice⟩ := by
    rw [AdpState.getUsrRegistInfo, hs.list, List.range_succ_eq_map, List.map_cons, lookup_cons,
      if_pos hid]
    rfl
  refine ⟨tr, s, (run_clocked_iff _).2 ⟨c, hrun.mono fun _ _ _ h => h.2⟩, fun hnodup => ?_, _, hmem,
    rfl, hfound⟩
  have hown := lookup_of_mem hnodup hmem
  rw [AdpState.getUsrRegistInfo, hown, Option.some.injEq] at hfound
  cases hfound

end SmartPlat.Adp
