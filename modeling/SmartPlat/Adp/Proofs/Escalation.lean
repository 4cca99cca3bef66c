import SmartPlat.Adp.FunctionTable
import SmartPlat.UsrManage.Proofs.Accounts

set_option autoImplicit false

/-! # Privilege escalation

`AddUsr`, `DelUsr` and `CheckUser` compare the actor's level with that of the user concerned. The
functions every operator has do not: `ResetPassword` and `ModifyUsrBindInfo` take any name, and
`ModifyUsrInfo` and `ModifyPassword` only compare names with the record the session was opened with.
`TargetWithinRank` is the comparison they leave out; with it no session touches a user above its
level. -/

namespace SmartPlat.Adp

open SmartPlat.Lib SmartPlat.UsrManage

variable {δ : Type*} {cb : UsrManageHandle δ} {s s' s₀ : UsrManageInner δ}

/-! ## What a call may not touch -/

/-- The users ranked above a level, with everything stored of them. -/
def rankedAbove (level : UsrLevel) (users : List UsrInfo) : List UsrInfo :=
  users.filter fun u => level < u.userLevel

/-- Nobody's level changes: users are only added by `AddUsr` and only removed by `DelUsr`, and every
    other call leaves the levels of all users as they are. -/
def LevelsKept (call : AdpCall) (users users' : List UsrInfo) : Prop :=
  match call with
  | .addUsr _ => ∃ added, users' = users ++ added
  | .delUsr _ => users'.Sublist users
  | _ => users'.map UserRegistInfo.userLevel = users.map UserRegistInfo.userLevel

/-- The user a call writes to without a look at their level. -/
def SessionCall.target (c : SessionCall) (s : UsrManageInner δ) : Option UsrInfo :=
  match c.call with
  | .modifyUsrInfo info =>
      if checkUsrInfoValidity info ≠ keyFalse ∧ c.usr.name = info.name ∧ info.userLevel ≤ c.level then
        findByName info.name s.listHead
      else none
  | .modifyPassword username old _ =>
      if c.usr.name = username then
        (findByName username s.listHead).filter fun u => u.passWord.str = old
      else none
  | .resetPassword username _ _ => findByName username s.listHead
  | .modifyUsrBindInfo _ old => findByName old s.listHead
  | _ => none

/-- If the call is one the session has, the user it writes to does not outrank the actor. -/
def TargetWithinRank (s : UsrManageInner δ) (c : SessionCall) : Prop :=
  c.call.function ∈ adpRegistManage c.level → ∀ u, c.target s = some u → u.userLevel ≤ c.level

/-! ## One call -/

theorem rankedAbove_write {name : CString} {f : UsrInfo → UsrInfo} {u : UsrInfo} {level : UsrLevel}
    (found : findByName name s.listHead = some u) (hf : (f u).userLevel = u.userLevel)
    (hu : u.userLevel ≤ level) :
    rankedAbove level (writeByName name f s).listHead = rankedAbove level s.listHead := by
  refine filter_modifyFirst found ?_ ?_
  · simpa using hu
  · simpa [hf] using hu

theorem levels_write {name : CString} {f : UsrInfo → UsrInfo}
    (hf : ∀ u, (f u).userLevel = u.userLevel) :
    (writeByName name f s).listHead.map UserRegistInfo.userLevel =
      s.listHead.map UserRegistInfo.userLevel :=
  map_modifyFirst _ fun u _ => hf u

/-- The change of a call that is within rank, seen from any level at or above the actor's. -/
theorem change_withinRank {c : SessionCall} {u : UsrCall} {users : List UsrInfo} {level : UsrLevel}
    (hinst : c.call.function ∈ adpRegistManage c.level) (hrank : TargetWithinRank s c)
    (hlevel : c.level ≤ level) (hu : c.usrCall = some u) (h : UsrChange cb s u users) :
    rankedAbove level users = rankedAbove level s.listHead ∧
      LevelsKept c.call s.listHead users := by
  obtain ⟨usr, call⟩ := c
  have hrank := hrank hinst
  cases call with
  | addUsr info =>
      obtain rfl := Option.some.inj hu
      cases h with
      | @addUsr _ _ usrID hle _ _ =>
          refine ⟨?_, _, rfl⟩
          -- `CheckUser` has compared the new user's level with the actor's
          have hnew : ¬ level < info.userLevel := not_lt.2 (hle.trans hlevel)
          rw [rankedAbove, List.filter_append, List.filter_cons_of_neg (by simpa using hnew)]
          exact List.append_nil _
  | checkUsr info => simp [SessionCall.usrCall] at hu
  | delUsr info =>
      obtain rfl := Option.some.inj hu
      cases h with
      | delUsr found hle =>
          refine ⟨filter_eraseFirst found ?_, eraseFirst_sublist⟩
          simpa using hle.trans hlevel
  | modifyUsrInfo info =>
      obtain rfl := Option.some.inj hu
      cases h with
      | modifyUsrInfo valid own hle found =>
          have htarget := hrank _ ((if_pos ⟨valid, own, hle⟩).trans found)
          exact ⟨rankedAbove_write found rfl (htarget.trans hlevel), levels_write fun _ => rfl⟩
  | modifyPassword username old new =>
      simp only [SessionCall.usrCall, Option.ite_none_right_eq_some, Option.some.injEq] at hu
      obtain ⟨hown, rfl⟩ := hu
      cases h with
      | @modifyPassword _ _ _ info _ found hold _ =>
          have hfound : (findByName username s.listHead).filter (fun u => u.passWord.str = old) =
              some info := by
            rw [found]
            simp [hold]
          have htarget := hrank info ((if_pos hown).trans hfound)
          exact ⟨rankedAbove_write found rfl (htarget.trans hlevel), levels_write fun _ => rfl⟩
  | resetPassword username countrycode password =>
      obtain rfl := Option.some.inj hu
      cases h with
      | resetPassword found _ =>
          exact ⟨rankedAbove_write found rfl ((hrank _ found).trans hlevel),
            levels_write fun _ => rfl⟩
  | modifyUsrBindInfo info old =>
      obtain rfl := Option.some.inj hu
      cases h with
      | modifyUsrBindInfo found =>
          exact ⟨rankedAbove_write found rfl ((hrank _ found).trans hlevel),
            levels_write fun _ => rfl⟩

theorem levelsKept_refl (call : AdpCall) (users : List UsrInfo) : LevelsKept call users users := by
  cases call with
  | addUsr info => exact ⟨[], (List.append_nil _).symm⟩
  | delUsr info => exact List.Sublist.refl _
  | _ => rfl

theorem SessionStep.withinRank {c : SessionCall} {level : UsrLevel} (hrank : TargetWithinRank s c)
    (hlevel : c.level ≤ level) (h : SessionStep cb s c s') :
    rankedAbove level s'.listHead = rankedAbove level s.listHead ∧
      LevelsKept c.call s.listHead s'.listHead := by
  rcases h.cases with hsame | ⟨hinst, u, hu, hchange⟩
  · rw [hsame]
    exact ⟨rfl, levelsKept_refl _ _⟩
  · exact change_withinRank hinst hrank hlevel hu hchange

/-! ## Histories -/

theorem rankedAbove_run {level : UsrLevel} {tr : List SessionCall}
    (h : Run (stepWhen TargetWithinRank (SessionStep cb)) s₀ tr s)
    (hlevel : ∀ c ∈ tr, c.level ≤ level) :
    rankedAbove level s.listHead = rankedAbove level s₀.listHead := by
  induction h with
  | nil => rfl
  | snoc _ hs ih =>
      rw [(hs.2.withinRank hs.1 (hlevel _ (by simp))).1]
      exact ih fun c hc => hlevel c (List.mem_append_left _ hc)

/-- **No privilege escalation** among calls within rank: whatever sessions of at most some level do,
    the users above it stay exactly as they are; and every single call of the history leaves the
    users above its actor alone and changes nobody's level. -/
theorem noEscalation {tr : List SessionCall}
    (h : Run (stepWhen TargetWithinRank (SessionStep cb)) s₀ tr s) :
    (∀ level, (∀ c ∈ tr, c.level ≤ level) →
      rankedAbove level s.listHead = rankedAbove level s₀.listHead) ∧
    ∀ pre c suf, tr = pre ++ c :: suf → ∃ s₁ s₂,
      Run (stepWhen TargetWithinRank (SessionStep cb)) s₀ pre s₁ ∧ SessionStep cb s₁ c s₂ ∧
      Run (stepWhen TargetWithinRank (SessionStep cb)) s₂ suf s ∧
      rankedAbove c.level s₂.listHead = rankedAbove c.level s₁.listHead ∧
      LevelsKept c.call s₁.listHead s₂.listHead := by
  refine ⟨fun level hlevel => rankedAbove_run h hlevel, ?_⟩
  rintro pre c suf rfl
  obtain ⟨s₁, s₂, hpre, ⟨hrank, hstep⟩, hsuf⟩ := h.split
  exact ⟨s₁, s₂, hpre, hstep, hsuf, hstep.withinRank hrank le_rfl⟩

/-! ## Concrete sessions -/

def rootUsr : UsrInfo := sampleUsr 114 .root 10000

def adminUsr : UsrInfo := sampleUsr 109 .administrator 10001

/-- An administrator adds an operator, who then resets Alice's password. -/
theorem noEscalation_add_reset :
    ∃ s tr, Run (stepWhen TargetWithinRank (SessionStep defaultHandle))
      (sampleState [rootUsr, adminUsr, alice]) tr s ∧ tr.length = 2 ∧
      s.listHead.length = 4 ∧ authentication (letter 97) (letter 120) s.listHead = .operator ∧
      ((∀ level, (∀ c ∈ tr, c.level ≤ level) →
        rankedAbove level s.listHead = rankedAbove level [rootUsr, adminUsr, alice]) ∧
      ∀ pre c suf, tr = pre ++ c :: suf → ∃ s₁ s₂,
        Run (stepWhen TargetWithinRank (SessionStep defaultHandle))
          (sampleState [rootUsr, adminUsr, alice]) pre s₁ ∧ SessionStep defaultHandle s₁ c s₂ ∧
        Run (stepWhen TargetWithinRank (SessionStep defaultHandle)) s₂ suf s ∧
        rankedAbove c.level s₂.listHead = rankedAbove c.level s₁.listHead ∧
        LevelsKept c.call s₁.listHead s₂.listHead) := by
  have h := (Run.nil : Run (stepWhen TargetWithinRank (SessionStep defaultHandle))
      (sampleState [rootUsr, adminUsr, alice]) [] _)
    |>.snoc (a := ⟨adminUsr, .addUsr bob⟩) ⟨fun _ _ hu => absurd hu (by simp [SessionCall.target]),
      keyTrue, rfl⟩
    |>.snoc (a := ⟨bob, .resetPassword (letter 97) (letter 43) (letter 120)⟩)
      ⟨fun _ u hu => by obtain rfl := Option.some.inj hu; decide, keyTrue, rfl⟩
  exact ⟨_, _, h, rfl, rfl, rfl, noEscalation h⟩

/-- An operator resets the password of a root user, and from then on logs in as root. -/
theorem operator_resets_root :
    ∃ s tr, Run (SessionStep defaultHandle) (sampleState [rootUsr, alice]) tr s ∧
      (∀ c ∈ tr, c.level ≤ .operator) ∧
      rankedAbove .operator s.listHead ≠ rankedAbove .operator [rootUsr, alice] ∧
      authentication (letter 114) (letter 120) s.listHead = .root := by
  have h := (Run.nil : Run (SessionStep defaultHandle) (sampleState [rootUsr, alice]) [] _)
    |>.snoc (a := ⟨alice, .resetPassword (letter 114) (letter 43) (letter 120)⟩) ⟨keyTrue, rfl⟩
  exact ⟨_, _, h, by decide, by decide, rfl⟩

end SmartPlat.Adp
