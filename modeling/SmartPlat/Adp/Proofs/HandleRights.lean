import SmartPlat.Adp.Sessions
import SmartPlat.UsrManage.Proofs.Accounts

set_option autoImplicit false

/-! # The functions on a handle follow its logins

`AdpRegistHandle` and `AdpUnRegistHandle` reset a handle with `InitAdpAPIRegistHandleNoAuthor`, which
knows only some of the members `AdpRegistManage` installs: `pGetUsrInfo` and most of what an operator
has stay on the handle. -/

namespace SmartPlat.Adp

open SmartPlat.Lib SmartPlat.UsrManage

/-! ## What stays -/

theorem operator_le_of_not_le {level : UsrLevel} (h : ¬ level ≤ .device) : .operator ≤ level := by
  revert h
  cases level <;> decide

/-- Between an operator and the levels above there is only the administrator. -/
theorem administrator_le_of_not_le {level cur : UsrLevel} (hcur : .operator ≤ cur)
    (h : ¬ level ≤ cur) : .administrator ≤ level := by
  revert h hcur
  cases level <;> cases cur <;> decide

theorem le_root (level : UsrLevel) : level ≤ .root := by
  cases level <;> decide

theorem adpRegistManage_mono {level level' : UsrLevel} (h : level ≤ level') {f : AdpFunction}
    (hf : f ∈ adpRegistManage level) : f ∈ adpRegistManage level' := by
  have hop : f ∈ operatorFunctions → f ∈ administratorFunctions := List.mem_append_right _
  have hadmin : f ∈ administratorFunctions → f ∈ adpRegistManage .root := List.mem_append_right _
  cases level <;> cases level' <;>
    first
    | exact absurd h (by decide)
    | exact absurd hf List.not_mem_nil
    | exact hf
    | exact hop hf
    | exact hadmin hf
    | exact hadmin (hop hf)

/-- The functions only a root user has are all reset. -/
theorem root_left {f : AdpFunction} (hf : f ∈ adpRegistManage .root) (hleft : f ∉ noAuthorFunctions) :
    f ∈ adpRegistManage .administrator := by
  rcases List.mem_append.1 hf with hf | hf
  · refine absurd ?_ hleft
    revert f
    decide
  · exact hf

/-- Those of an operator are not. -/
theorem pHksdkDeviceAdd_mem_iff (level : UsrLevel) :
    .pHksdkDeviceAdd ∈ adpRegistManage level ↔ .operator ≤ level := by
  cases level <;> decide

theorem pGetUsrInfo_mem_iff (level : UsrLevel) :
    .pGetUsrInfo ∈ adpRegistManage level ↔ .administrator ≤ level := by
  cases level <;> decide

/-! ## The logins of a handle -/

/-- The level of the last login on a handle, unless it failed or has been logged out, and those of
    all its successful logins. -/
structure Logins where
  current : Option UsrLevel
  past : List UsrLevel

/-- What a step does to the logins of the handle `h`. -/
def Logins.tick (h : HandlePtr) (l : Logins) (s : AdpState) : AdpEvent → Logins
  | .regist _ h' usrName passwd =>
      if h' ≠ h then l
      else if authentication usrName passwd s.usrs = .invalid then { l with current := none }
      else
        { current := some (authentication usrName passwd s.usrs)
          past := authentication usrName passwd s.usrs :: l.past }
  | .delHandle t =>
      match s.threads t with
      | .logout h' _ => if h' ≠ h then l else { l with current := none }
      | _ => l
  | _ => l

/-- A step of the adapter, with the logins of the handle `h`. -/
abbrev LoggedStep (h : HandlePtr) : AdpState × Logins → AdpEvent → AdpState × Logins → Prop :=
  stepWith (Logins.tick h) AdpStep

/-- The functions are those granted to the level that is logged in, and none when nobody is. -/
def RightsFollow (functions : Finset AdpFunction) (l : Logins) : Prop :=
  ∀ f, f ∈ functions ↔ ∃ level, l.current = some level ∧ f ∈ adpRegistManage level

/-- Every login so far was of a user without any function, or somebody is logged in whose level is
    at least as high, or that of an administrator. -/
def Covered (l : Logins) : Prop :=
  ∀ level ∈ l.past, level ≤ .device ∨
    ∃ cur, l.current = some cur ∧ (level ≤ cur ∨ .administrator ≤ cur)

/-! ## The invariant -/

/-- The functions on a handle: those of the level that is logged in, and what the resets left of every
    earlier login. -/
structure RightsInv (functions : Finset AdpFunction) (l : Logins) : Prop where
  mem_iff : ∀ f, f ∈ functions ↔ (∃ level, l.current = some level ∧ f ∈ adpRegistManage level) ∨
    ∃ level ∈ l.past, f ∈ adpRegistManage level ∧ f ∉ noAuthorFunctions
  current : ∀ level, l.current = some level → level ∈ l.past

section Steps

variable {s s' : AdpState} {l : Logins} {h : HandlePtr} {functions : Finset AdpFunction}

theorem RightsInv.mem_left_iff (hi : RightsInv functions l) (f : AdpFunction) :
    f ∈ initNoAuthorFunctions functions ↔
      ∃ level ∈ l.past, f ∈ adpRegistManage level ∧ f ∉ noAuthorFunctions := by
  rw [initNoAuthorFunctions, Finset.mem_filter, hi.mem_iff]
  constructor
  · rintro ⟨⟨level, hcur, hf⟩ | hleft, hno⟩
    · exact ⟨level, hi.current level hcur, hf, hno⟩
    · exact hleft
  · intro ⟨level, hlevel, hf, hno⟩
    exact ⟨.inr ⟨level, hlevel, hf, hno⟩, hno⟩

theorem RightsInv.reset (hi : RightsInv functions l) :
    RightsInv (initNoAuthorFunctions functions) { l with current := none } where
  mem_iff f := by
    rw [hi.mem_left_iff f]
    simp
  current level hcur := by simp at hcur

theorem RightsInv.install (hi : RightsInv functions l) (level : UsrLevel) :
    RightsInv (installFunctions level (initNoAuthorFunctions functions))
      { current := some level, past := level :: l.past } where
  mem_iff f := by
    rw [installFunctions, Finset.mem_union, hi.mem_left_iff f, List.mem_toFinset]
    constructor
    · rintro (⟨old, hold, hf⟩ | hf)
      · exact .inr ⟨old, List.mem_cons_of_mem _ hold, hf⟩
      · exact .inl ⟨level, rfl, hf⟩
    · rintro (⟨cur, hcur, hf⟩ | ⟨old, hold, hf, hno⟩)
      · obtain rfl := Option.some.inj hcur
        exact .inr hf
      · rcases List.mem_cons.1 hold with rfl | hold
        · exact .inr hf
        · exact .inl ⟨old, hold, hf, hno⟩
  current cur hcur := by
    obtain rfl := Option.some.inj hcur
    exact List.mem_cons_self

theorem RightsInv.regist (hi : RightsInv (s.handles h).functions l) {t : ℕ} {h' : HandlePtr}
    {usrName passwd : CString} (hs : adpRegistHandle t h' usrName passwd s = some s') :
    RightsInv (s'.handles h).functions (l.tick h s (.regist t h' usrName passwd)) := by
  unfold adpRegistHandle at hs
  simp only [Logins.tick] at hs ⊢
  split at hs
  · next hauth =>
      obtain rfl := Option.some.inj hs
      by_cases hh : h' = h
      · subst hh
        rw [AdpState.initNoAuthor, AdpState.setHandle_self, if_neg (not_not.2 rfl), if_pos hauth]
        exact hi.reset
      · rw [AdpState.initNoAuthor, AdpState.setHandle_of_ne _ _ (Ne.symm hh), if_pos hh]
        exact hi
  · next hauth =>
      obtain ⟨info, -, rfl⟩ := Option.map_eq_some_iff.1 hs
      by_cases hh : h' = h
      · subst hh
        rw [AdpState.setThread, AdpState.setHandle_self, if_neg (not_not.2 rfl), if_neg hauth]
        exact hi.install _
      · rw [AdpState.setThread, AdpState.setHandle_of_ne _ _ (Ne.symm hh), if_pos hh]
        exact hi

/-- **Step lemma.** -/
theorem RightsInv.step {e : AdpEvent} (hi : RightsInv (s.handles h).functions l)
    (hs : AdpStep s e s') : RightsInv (s'.handles h).functions (l.tick h s e) := by
  unfold AdpStep at hs
  cases e with
  | regist t h' usrName passwd =>
      simp only [adpStep] at hs
      split at hs
      · exact hi.regist hs
      · cases hs
  | compose t =>
      simp only [adpStep] at hs
      split at hs
      · next usr _ =>
          obtain rfl := Option.some.inj hs
          -- the id is written, the functions stay
          by_cases hh : h = usr.apiHandle
          · subst hh
            rw [AdpState.setThread, AdpState.setHandle_self]
            exact hi
          · rw [AdpState.setThread, AdpState.setHandle_of_ne _ _ hh]
            exact hi
      · cases hs
  | delHandle t =>
      simp only [adpStep] at hs
      split at hs
      · next h' usr hpc =>
          split at hs
          · obtain rfl := Option.some.inj hs
            simp only [Logins.tick, hpc]
            by_cases hh : h' = h
            · subst hh
              rw [AdpState.setThread, AdpState.initNoAuthor, AdpState.setHandle_self,
                if_neg (not_not.2 rfl)]
              exact hi.reset
            · rw [AdpState.setThread, AdpState.initNoAuthor,
                AdpState.setHandle_of_ne _ _ (Ne.symm hh), if_pos hh]
              exact hi
          · cases hs
      · cases hs
  | users | increment | wrap | search | addHandle | unRegist | funLogin | funLoginOut =>
      simp only [adpStep] at hs
      repeat' split at hs
      all_goals first
        | (obtain rfl := Option.some.inj hs; exact hi)
        | cases hs

end Steps

/-! ## Runs -/

theorem RightsInv.rightsFollow_iff {functions : Finset AdpFunction} {l : Logins}
    (hi : RightsInv functions l) : RightsFollow functions l ↔ Covered l := by
  constructor
  · intro hr level hlevel
    have hleft : ∀ f, f ∈ adpRegistManage level → f ∉ noAuthorFunctions →
        ∃ cur, l.current = some cur ∧ f ∈ adpRegistManage cur := fun f hf hno =>
      (hr f).1 ((hi.mem_iff f).2 (.inr ⟨level, hlevel, hf, hno⟩))
    refine or_iff_not_imp_left.2 fun hdev => ?_
    have hop := operator_le_of_not_le hdev
    obtain ⟨cur, hcur, hf⟩ := hleft _ ((pHksdkDeviceAdd_mem_iff level).2 hop) (by decide)
    refine ⟨cur, hcur, or_iff_not_imp_left.2 fun hlt => ?_⟩
    have hadmin := administrator_le_of_not_le ((pHksdkDeviceAdd_mem_iff cur).1 hf) hlt
    obtain ⟨cur', hcur', hf'⟩ := hleft _ ((pGetUsrInfo_mem_iff level).2 hadmin) (by decide)
    obtain rfl := Option.some.inj (hcur.symm.trans hcur')
    exact (pGetUsrInfo_mem_iff cur).1 hf'
  · intro hc f
    rw [hi.mem_iff f, or_iff_left_iff_imp]
    intro ⟨level, hlevel, hf, hno⟩
    rcases hc level hlevel with hdev | ⟨cur, hcur, hle | hadmin⟩
    · exact absurd (adpRegistManage_mono hdev hf) List.not_mem_nil
    · exact ⟨cur, hcur, adpRegistManage_mono hle hf⟩
    · exact ⟨cur, hcur, adpRegistManage_mono hadmin
        (root_left (adpRegistManage_mono (le_root level) hf) hno)⟩

/-- **The rights on a handle** follow its logins exactly as long as no login left more behind than the
    level logged in has, whatever happens on other handles and to the users meanwhile. -/
theorem handleRights {h : HandlePtr} {usrs : List UsrInfo} {tr : List AdpEvent} {s : AdpState}
    {l : Logins} (hrun : Run (LoggedStep h) (.init usrs, ⟨none, []⟩) tr (s, l)) :
    RightsFollow (s.handles h).functions l ↔ Covered l := by
  have hinv : RightsInv (s.handles h).functions l := by
    refine hrun.stateInvariant (fun x => RightsInv (x.1.handles h).functions x.2)
      ⟨fun f => ?_, fun level hcur => ?_⟩ ?_
    · simp [AdpState.init]
    · simp at hcur
    · intro ⟨s, l⟩ e ⟨s', l'⟩ hi ⟨hs, hl⟩
      obtain rfl : l' = l.tick h s e := hl
      exact hi.step hs
  exact hinv.rightsFollow_iff

/-! ## Concrete logins -/

/-- What thread `0` does for a login of Alice on handle `0`. -/
def aliceLogin : List AdpEvent :=
  [.regist 0 0 (letter 97) (letter 97), .increment 0, .wrap 0, .search 0, .compose 0, .addHandle 0]

/-- And for the logout. -/
def aliceLogout : List AdpEvent := [.unRegist 0 0, .delHandle 0]

/-- One step with its record, computed. -/
def loggedStep (h : HandlePtr) (x : AdpState × Logins) (e : AdpEvent) : Option (AdpState × Logins) :=
  (adpStep x.1 e).map fun s => (s, x.2.tick h x.1 e)

theorem loggedStep_sound (h : HandlePtr) (x : AdpState × Logins) (e : AdpEvent)
    (y : AdpState × Logins) (hy : loggedStep h x e = some y) : LoggedStep h x e y := by
  obtain ⟨s, hs, rfl⟩ := Option.map_eq_some_iff.1 hy
  exact ⟨hs, rfl⟩

/-- Alice, an operator, logs in, logs out and logs in again. -/
theorem rights_login_again :
    ∃ s l, Run (LoggedStep 0) (.init [alice], ⟨none, []⟩) (aliceLogin ++ aliceLogout ++ aliceLogin)
        (s, l) ∧ l.current = some .operator ∧ RightsFollow (s.handles 0).functions l := by
  have h : Run (LoggedStep 0) (.init [alice], ⟨none, []⟩) (aliceLogin ++ aliceLogout ++ aliceLogin)
      (_, _) := Run.of_eval (loggedStep_sound 0) rfl
  refine ⟨_, _, h, rfl, (handleRights h).2 fun level hlevel => .inr ⟨.operator, rfl, .inl ?_⟩⟩
  revert level
  decide

/-- Once she has logged out, her handle still adds and deletes recorders. -/
theorem logout_leaves_functions :
    ∃ s l, Run (LoggedStep 0) (.init [alice], ⟨none, []⟩) (aliceLogin ++ aliceLogout) (s, l) ∧
      l.current = none ∧ .pHksdkDeviceAdd ∈ (s.handles 0).functions ∧
      .pHksdkDeviceDel ∈ (s.handles 0).functions ∧ ¬ RightsFollow (s.handles 0).functions l := by
  have h : Run (LoggedStep 0) (.init [alice], ⟨none, []⟩) (aliceLogin ++ aliceLogout) (_, _) :=
    Run.of_eval (loggedStep_sound 0) rfl
  refine ⟨_, _, h, rfl, by decide, by decide, fun hr => ?_⟩
  obtain ⟨level, hcur, -⟩ := (hr .pHksdkDeviceAdd).1 (by decide)
  cases hcur

end SmartPlat.Adp
