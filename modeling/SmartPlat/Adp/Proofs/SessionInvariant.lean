import SmartPlat.Adp.Sessions
import Mathlib.Data.Nat.Bitwise

set_option autoImplicit false

/-! # What orderly logins and logouts keep

The search of `MakeUsrID` compares the bare counter with whole session ids, whose high part is the
level, so it never finds anything: what keeps ids apart is the counter alone. The invariant says who
works on which handle, that the counter is the number of calls of `MakeUsrID`, and that the ids of
one level have different numbers. -/

namespace SmartPlat.Adp

open SmartPlat.Lib SmartPlat.UsrManage

/-! ## Ids as pairs -/

theorem composeID_eq (level : UsrLevel) {n : ℕ} (hn : n < 10000) :
    composeID level n = level.toNat * 2 ^ 16 + n := by
  rw [composeID, ← Nat.shiftLeft_add_eq_or_of_lt (by omega), Nat.shiftLeft_eq]

theorem composeID_inj {level level' : UsrLevel} {n n' : ℕ} (hn : n < 10000) (hn' : n' < 10000)
    (h : composeID level n = composeID level' n') : level = level' ∧ n = n' := by
  rw [composeID_eq level hn, composeID_eq level' hn'] at h
  refine ⟨UsrLevel.toNat_injective ?_, ?_⟩ <;> omega

theorem composeID_large {level : UsrLevel} {n : ℕ} (hlevel : level ≠ .invalid) (hn : n < 10000) :
    2 ^ 16 ≤ composeID level n := by
  have hpos : level.toNat ≠ 0 := fun h => hlevel (UsrLevel.toNat_injective h)
  rw [composeID_eq level hn]
  omega

/-! ## What a thread has to itself -/

inductive Resource where
  | handle (h : HandlePtr)
  | counter

/-- The handle a login or a logout works on, and the counter while a login is in `MakeUsrID`. -/
def AdpPc.Uses : AdpPc → Resource → Prop
  | .idle, _ => False
  | .login _ usr, .handle h => usr.apiHandle = h
  | .login stage _, .counter => stage = .incremented ∨ stage = .wrapped ∨ stage = .searched
  | .logout h' _, .handle h => h' = h
  | .logout _ _, .counter => False

def Exclusive (threads : ℕ → AdpPc) : Prop :=
  ∀ t t' x, (threads t).Uses x → (threads t').Uses x → t = t'

/-- No thread is using it. -/
def AdpState.Free (s : AdpState) (x : Resource) : Prop := ∀ t, ¬ (s.threads t).Uses x

theorem Exclusive.update {threads : ℕ → AdpPc} {t : ℕ} {pc : AdpPc} (hx : Exclusive threads)
    (h : ∀ x, pc.Uses x → (threads t).Uses x ∨ ∀ t', ¬ (threads t').Uses x) :
    Exclusive (Function.update threads t pc) := by
  have hother : ∀ x t', t' ≠ t → pc.Uses x → ¬ (threads t').Uses x := by
    intro x t' hne hpc ht'
    rcases h x hpc with ht | hfree
    · exact hne (hx t' t x ht' ht)
    · exact hfree t' ht'
  intro a b x ha hb
  by_cases hat : a = t <;> by_cases hbt : b = t
  · rw [hat, hbt]
  · subst hat
    rw [Function.update_self] at ha
    rw [Function.update_of_ne hbt] at hb
    exact absurd hb (hother x b hbt ha)
  · subst hbt
    rw [Function.update_self] at hb
    rw [Function.update_of_ne hat] at ha
    exact absurd ha (hother x a hat hb)
  · rw [Function.update_of_ne hat] at ha
    rw [Function.update_of_ne hbt] at hb
    exact hx a b x ha hb

/-! ## The number of a session -/

/-- How often `MakeUsrID` has been called, and at which call each handle got its id. -/
structure Clock where
  calls : ℕ
  serial : HandlePtr → ℕ

def Clock.tick (c : Clock) (s : AdpState) : AdpEvent → Clock
  | .increment _ => { c with calls := c.calls + 1 }
  | .compose t =>
      match s.threads t with
      | .login _ usr => { c with serial := Function.update c.serial usr.apiHandle c.calls }
      | _ => c
  | _ => c

/-- A step of the adapter with its calls counted. -/
def ClockedStep (x : AdpState × Clock) (e : AdpEvent) (y : AdpState × Clock) : Prop :=
  AdpStep x.1 e y.1 ∧ y.2 = x.2.tick x.1 e

/-- Counting restricts nothing: the runs of the adapter are the runs with their calls counted. -/
theorem run_clocked_iff {s₀ s : AdpState} {tr : List AdpEvent} (c₀ : Clock) :
    Run AdpStep s₀ tr s ↔ ∃ c, Run ClockedStep (s₀, c₀) tr (s, c) :=
  run_stepWith_iff Clock.tick c₀

/-- The sessions that have an id: those in the list, and those about to enter it. -/
def AdpState.HasID (s : AdpState) (usr : AdpUsrRegistInfo) : Prop :=
  usr ∈ s.listUsrRegistHead ∨ ∃ t, s.threads t = .login .composed usr

/-- Logins and logouts as they should be. A login is on a handle that is nobody's, on which earlier
    logins left nothing its level does not grant, and a logout on one no other call works on; calls of
    `MakeUsrID` do not overlap; and since no session of the same level got its id has `MakeUsrID` been
    called a multiple of 10000 times. -/
def Orderly (x : AdpState × Clock) : AdpEvent → Prop
  | .regist _ h usrName passwd => x.1.Free (.handle h) ∧
      (∀ usr ∈ x.1.listUsrRegistHead, usr.apiHandle ≠ h) ∧ h ∉ x.1.jsonListHead ∧
      (authentication usrName passwd x.1.usrs ≠ .invalid →
        initNoAuthorFunctions (x.1.handles h).functions ⊆
          (adpRegistManage (authentication usrName passwd x.1.usrs)).toFinset)
  | .unRegist _ h => x.1.Free (.handle h)
  | .increment _ => x.1.Free .counter
  | .compose t => ∀ usr, x.1.threads t = .login .searched usr → ∀ other, x.1.HasID other →
      other.usrInfo.userLevel = usr.usrInfo.userLevel →
      x.2.serial other.apiHandle % 10000 ≠ x.2.calls % 10000
  | _ => True

/-! ## The invariant -/

/-- The handle of a session is the one its user logged in with: their name, the functions of their
    level. -/
structure Opened (handles : HandlePtr → AdpAPIHandle) (usr : AdpUsrRegistInfo) : Prop where
  name : usr.usrInfo.name = (handles usr.apiHandle).usrName.str
  functions : (handles usr.apiHandle).functions = (adpRegistManage usr.usrInfo.userLevel).toFinset
  level : usr.usrInfo.userLevel ≠ .invalid

def ThreadOk (s : AdpState) : AdpPc → Prop
  | .idle => True
  | .login stage usr => (∀ r ∈ s.listUsrRegistHead, r.apiHandle ≠ usr.apiHandle) ∧
      usr.apiHandle ∉ s.jsonListHead ∧ Opened s.handles usr ∧
      (stage = .wrapped ∨ stage = .searched → s.usrID < 10000)
  | .logout h usr => usr ∈ s.listUsrRegistHead ∧ usr.apiHandle = h

/-- Ids on the handles are the composed ones, numbers are fresh within a level, and a handle without
    a session is clear. -/
structure IdsOk (HasID : AdpUsrRegistInfo → Prop) (handles : HandlePtr → AdpAPIHandle)
    (serial : HandlePtr → ℕ) : Prop where
  id : ∀ usr, HasID usr → (handles usr.apiHandle).usrID =
    composeID usr.usrInfo.userLevel (serial usr.apiHandle % 10000)
  fresh : ∀ usr usr', HasID usr → HasID usr' → usr.usrInfo.userLevel = usr'.usrInfo.userLevel →
    serial usr.apiHandle % 10000 = serial usr'.apiHandle % 10000 → usr.apiHandle = usr'.apiHandle
  clear : ∀ h, (handles h).usrID ≠ 0 → ∃ usr, HasID usr ∧ usr.apiHandle = h

structure SessionInv (s : AdpState) (c : Clock) : Prop where
  exclusive : Exclusive s.threads
  handles : (s.listUsrRegistHead.map AdpUsrRegistInfo.apiHandle).Nodup
  threads : ∀ t, ThreadOk s (s.threads t)
  opened : ∀ usr ∈ s.listUsrRegistHead, Opened s.handles usr
  counter : s.usrID % 10000 = c.calls % 10000
  ids : IdsOk s.HasID s.handles c.serial

/-! ## Ids -/

section Ids

variable {HasID HasID' : AdpUsrRegistInfo → Prop} {handles : HandlePtr → AdpAPIHandle}
  {serial : HandlePtr → ℕ}

theorem IdsOk.congr (hi : IdsOk HasID handles serial) (h : ∀ usr, HasID' usr ↔ HasID usr) :
    IdsOk HasID' handles serial := by
  obtain rfl : HasID' = HasID := funext fun usr => propext (h usr)
  exact hi

/-- Two sessions with one id are on one handle. -/
theorem IdsOk.handle_eq (hi : IdsOk HasID handles serial) {usr usr' : AdpUsrRegistInfo}
    (h : HasID usr) (h' : HasID usr')
    (heq : (handles usr.apiHandle).usrID = (handles usr'.apiHandle).usrID) :
    usr.apiHandle = usr'.apiHandle := by
  rw [hi.id usr h, hi.id usr' h'] at heq
  obtain ⟨hlevel, hserial⟩ :=
    composeID_inj (Nat.mod_lt _ (by decide)) (Nat.mod_lt _ (by decide)) heq
  exact hi.fresh usr usr' h h' hlevel hserial

/-- Clearing a handle takes the id from whoever is on it. -/
theorem IdsOk.clearHandle (hi : IdsOk HasID handles serial) {h : HandlePtr} {handle : AdpAPIHandle}
    (hzero : handle.usrID = 0) (hiff : ∀ usr, HasID' usr ↔ HasID usr ∧ usr.apiHandle ≠ h) :
    IdsOk HasID' (Function.update handles h handle) serial where
  id usr hu := by
    obtain ⟨hu, hne⟩ := (hiff usr).1 hu
    rw [Function.update_of_ne hne]
    exact hi.id usr hu
  fresh usr usr' hu hu' := hi.fresh usr usr' ((hiff usr).1 hu).1 ((hiff usr').1 hu').1
  clear h' hne := by
    by_cases hh : h' = h
    · subst hh
      rw [Function.update_self] at hne
      exact absurd hzero hne
    · rw [Function.update_of_ne hh] at hne
      obtain ⟨usr, hu, rfl⟩ := hi.clear h' hne
      exact ⟨usr, (hiff usr).2 ⟨hu, hh⟩, rfl⟩

/-- A session gets a number no session of its level has. -/
theorem IdsOk.compose (hi : IdsOk HasID handles serial) {usr : AdpUsrRegistInfo} {calls : ℕ}
    {handle : AdpAPIHandle}
    (hid : handle.usrID = composeID usr.usrInfo.userLevel (calls % 10000))
    (hother : ∀ r, HasID r → r.apiHandle ≠ usr.apiHandle)
    (hfresh : ∀ r, HasID r → r.usrInfo.userLevel = usr.usrInfo.userLevel →
      serial r.apiHandle % 10000 ≠ calls % 10000)
    (hiff : ∀ r, HasID' r ↔ HasID r ∨ r = usr) :
    IdsOk HasID' (Function.update handles usr.apiHandle handle)
      (Function.update serial usr.apiHandle calls) where
  id r hr := by
    rcases (hiff r).1 hr with hr | rfl
    · rw [Function.update_of_ne (hother r hr), Function.update_of_ne (hother r hr)]
      exact hi.id r hr
    · rw [Function.update_self, Function.update_self]
      exact hid
  fresh r r' hr hr' hlevel hserial := by
    rcases (hiff r).1 hr with hr | rfl <;> rcases (hiff r').1 hr' with hr' | rfl
    · rw [Function.update_of_ne (hother r hr), Function.update_of_ne (hother r' hr')] at hserial
      exact hi.fresh r r' hr hr' hlevel hserial
    · rw [Function.update_of_ne (hother r hr), Function.update_self] at hserial
      exact absurd hserial (hfresh r hr hlevel)
    · rw [Function.update_of_ne (hother r' hr'), Function.update_self] at hserial
      exact absurd hserial.symm (hfresh r' hr' hlevel.symm)
    · rfl
  clear h hne := by
    by_cases hh : h = usr.apiHandle
    · exact ⟨usr, (hiff usr).2 (.inr rfl), hh.symm⟩
    · rw [Function.update_of_ne hh] at hne
      obtain ⟨r, hr, rfl⟩ := hi.clear h hne
      exact ⟨r, (hiff r).2 (.inl hr), rfl⟩

end Ids

/-! ## Threads -/

section Threads

variable {s s' : AdpState} {c : Clock} {t : ℕ} {pc : AdpPc} {h : HandlePtr}
  {usr : AdpUsrRegistInfo}

theorem Opened.congr {handles handles' : HandlePtr → AdpAPIHandle} {usr : AdpUsrRegistInfo}
    (ho : Opened handles usr)
    (hname : (handles' usr.apiHandle).usrName = (handles usr.apiHandle).usrName)
    (hfun : (handles' usr.apiHandle).functions = (handles usr.apiHandle).functions) :
    Opened handles' usr :=
  ⟨by rw [hname]; exact ho.name, by rw [hfun]; exact ho.functions, ho.level⟩

/-- What holds of a thread still holds when nothing it uses is touched. -/
theorem ThreadOk.frame (ho : ThreadOk s pc)
    (hkeep : ∀ r ∈ s.listUsrRegistHead, pc.Uses (.handle r.apiHandle) → r ∈ s'.listUsrRegistHead)
    (hnew : ∀ r ∈ s'.listUsrRegistHead, r ∈ s.listUsrRegistHead ∨ ¬ pc.Uses (.handle r.apiHandle))
    (hjson : ∀ h ∈ s'.jsonListHead, h ∈ s.jsonListHead ∨ ¬ pc.Uses (.handle h))
    (hhandle : ∀ h, pc.Uses (.handle h) → s'.handles h = s.handles h)
    (hcounter : pc.Uses .counter → s'.usrID = s.usrID) : ThreadOk s' pc := by
  cases pc with
  | idle => trivial
  | login stage usr =>
      obtain ⟨hlive, hnj, hopen, hlt⟩ := ho
      have huses : (AdpPc.login stage usr).Uses (.handle usr.apiHandle) := rfl
      refine ⟨fun r hr heq => ?_, fun hj => ?_, ?_, fun hstage => ?_⟩
      · rcases hnew r hr with hr | hno
        · exact hlive r hr heq
        · exact hno heq.symm
      · exact (hjson _ hj).elim hnj (fun hno => hno huses)
      · exact hopen.congr (by rw [hhandle _ huses]) (by rw [hhandle _ huses])
      · rw [hcounter (.inr hstage)]
        exact hlt hstage
  | logout h usr => exact ⟨hkeep usr ho.1 ho.2.symm, ho.2⟩

/-- Who has an id, with one thread looked at apart. -/
theorem hasID_iff (t : ℕ) : s.HasID usr ↔ usr ∈ s.listUsrRegistHead ∨
    s.threads t = .login .composed usr ∨ ∃ t' ≠ t, s.threads t' = .login .composed usr := by
  refine or_congr_right ⟨?_, ?_⟩
  · intro ⟨t', ht'⟩
    by_cases ht : t' = t
    · exact .inl (ht ▸ ht')
    · exact .inr ⟨t', ht, ht'⟩
  · rintro (ht | ⟨t', -, ht'⟩)
    · exact ⟨t, ht⟩
    · exact ⟨t', ht'⟩

theorem hasID_setThread : (s.setThread t pc).HasID usr ↔ usr ∈ s.listUsrRegistHead ∨
    pc = .login .composed usr ∨ ∃ t' ≠ t, s.threads t' = .login .composed usr :=
  or_congr_right (Function.exists_update_iff s.threads fun _ pc => pc = .login .composed usr)

theorem SessionInv.thread (hi : SessionInv s c) (hpc : s.threads t = pc) : ThreadOk s pc :=
  hpc ▸ hi.threads t

/-- What one thread uses no other does. -/
theorem SessionInv.not_uses (hi : SessionInv s c) {x : Resource} {t' : ℕ}
    (huses : (s.threads t).Uses x) (hne : t' ≠ t) : ¬ (s.threads t').Uses x :=
  fun h' => hne (hi.exclusive t' t x h' huses)

/-- A thread goes on without giving or taking an id. -/
theorem SessionInv.setThread (hi : SessionInv s c)
    (huses : ∀ x, pc.Uses x → (s.threads t).Uses x ∨ s.Free x) (hok : ThreadOk s pc)
    (hold : ∀ u, s.threads t ≠ .login .composed u) (hnew : ∀ u, pc ≠ .login .composed u) :
    SessionInv (s.setThread t pc) c where
  exclusive := hi.exclusive.update huses
  handles := hi.handles
  threads := (Function.forall_update_iff s.threads fun _ pc => ThreadOk s pc).2
    ⟨hok, fun t' _ => hi.threads t'⟩
  opened := hi.opened
  counter := hi.counter
  ids := hi.ids.congr fun usr => by
    rw [hasID_setThread, hasID_iff t]
    simp only [hold usr, hnew usr]

/-- A handle nobody uses is written with no id on it. -/
theorem SessionInv.setHandle (hi : SessionInv s c) {handle : AdpAPIHandle}
    (hfree : s.Free (.handle h)) (hlive : ∀ usr ∈ s.listUsrRegistHead, usr.apiHandle ≠ h)
    (hzero : handle.usrID = 0) : SessionInv (s.setHandle h handle) c where
  exclusive := hi.exclusive
  handles := hi.handles
  threads t := by
    refine (hi.threads t).frame (fun _ hr _ => hr) (fun _ hr => .inl hr) (fun _ hj => .inl hj)
      (fun h' huses => ?_) (fun _ => rfl)
    refine s.setHandle_of_ne handle ?_
    rintro rfl
    exact hfree t huses
  opened usr hu := by
    have hsame := s.setHandle_of_ne handle (hlive usr hu)
    exact (hi.opened usr hu).congr (congrArg _ hsame) (congrArg _ hsame)
  counter := hi.counter
  ids := by
    refine hi.ids.clearHandle hzero fun usr => (and_iff_left_of_imp ?_).symm
    rintro (hu | ⟨t, ht⟩) rfl
    · exact hlive usr hu rfl
    · refine hfree t ?_
      rw [show s.threads t = .login .composed usr from ht]
      rfl

/-- The counter moves on while no thread relies on its value. -/
theorem SessionInv.setCounter (hi : SessionInv s c) {n calls : ℕ} (hn : n % 10000 = calls % 10000)
    (hstage : ∀ t stage usr, s.threads t = .login stage usr →
      ¬ (stage = .wrapped ∨ stage = .searched)) :
    SessionInv { s with usrID := n } { c with calls } where
  exclusive := hi.exclusive
  handles := hi.handles
  threads t := by
    have hok := hi.threads t
    cases hpc : s.threads t with
    | idle => trivial
    | login stage usr =>
        rw [hpc] at hok
        exact ⟨hok.1, hok.2.1, hok.2.2.1, fun hst => absurd hst (hstage t stage usr hpc)⟩
    | logout h usr =>
        rw [hpc] at hok
        exact hok
  opened := hi.opened
  counter := hn
  ids := hi.ids

end Threads

/-! ## Steps -/

section Steps

variable {s s' : AdpState} {c : Clock} {t : ℕ} {h : HandlePtr} {usr : AdpUsrRegistInfo}

/-- A user who authenticates is found again under the name on the handle, with their level. -/
theorem authenticated_info {usrName passwd : CString} {users : List UsrInfo} {info : UsrInfo}
    (hauth : authentication usrName passwd users ≠ .invalid)
    (hfound : findByName (snprintf dfMaxlenUsrname usrName).str users = some info) :
    info.name = (snprintf dfMaxlenUsrname usrName).str ∧
      info.userLevel = authentication usrName passwd users := by
  refine ⟨key_of_lookup hfound, ?_⟩
  unfold authentication at hauth ⊢
  cases hfind : findByName usrName users with
  | none => simp [hfind] at hauth
  | some first =>
      have hname : first.name = usrName := key_of_lookup hfind
      have hsame : snprintf dfMaxlenUsrname usrName = first.usrname := by
        rw [← hname, snprintf_str]
      rw [hsame, ← UserRegistInfo.name, hname, hfind, Option.some.injEq] at hfound
      subst hfound
      simp only [hfind] at hauth ⊢
      split
      · rfl
      · next hne => simp [hne] at hauth

theorem SessionInv.regist (hi : SessionInv s c) {usrName passwd : CString}
    (hidle : s.threads t = .idle) (hfree : s.Free (.handle h))
    (hlive : ∀ usr ∈ s.listUsrRegistHead, usr.apiHandle ≠ h) (hjson : h ∉ s.jsonListHead)
    (hleft : authentication usrName passwd s.usrs ≠ .invalid →
      initNoAuthorFunctions (s.handles h).functions ⊆
        (adpRegistManage (authentication usrName passwd s.usrs)).toFinset)
    (hs : adpRegistHandle t h usrName passwd s = some s') : SessionInv s' c := by
  unfold adpRegistHandle at hs
  simp only at hs
  split at hs
  · obtain rfl := Option.some.inj hs
    exact hi.setHandle hfree hlive rfl
  · next hauth =>
      obtain ⟨info, hfound, rfl⟩ := Option.map_eq_some_iff.1 hs
      obtain ⟨hname, hlevel⟩ := authenticated_info hauth hfound
      refine (hi.setHandle hfree hlive rfl).setThread ?_ ⟨hlive, hjson, ?_, ?_⟩ ?_ ?_
      · rintro (h' | _) huses
        · obtain rfl : h = h' := huses
          exact .inr hfree
        · exact absurd huses (by simp [AdpPc.Uses])
      · refine ⟨?_, ?_, ?_⟩
        · rw [AdpState.setHandle_self]
          exact hname
        · rw [AdpState.setHandle_self, hlevel]
          exact Finset.union_eq_right.2 (hleft hauth)
        · rw [hlevel]
          exact hauth
      · simp
      · intro u hu
        rw [AdpState.setHandle, hidle] at hu
        cases hu
      · intro u hu
        cases hu

theorem ThreadOk.stage {stage stage' : LoginStage} (ho : ThreadOk s (.login stage usr))
    (hlt : stage' = .wrapped ∨ stage' = .searched → s.usrID < 10000) :
    ThreadOk s (.login stage' usr) :=
  ⟨ho.1, ho.2.1, ho.2.2.1, hlt⟩

/-- A login goes from one stage to another before its id is on the handle. -/
theorem SessionInv.setStage (hi : SessionInv s c) {stage stage' : LoginStage}
    (hpc : s.threads t = .login stage usr)
    (huses : (AdpPc.login stage' usr).Uses .counter →
      (AdpPc.login stage usr).Uses .counter ∨ s.Free .counter)
    (hlt : stage' = .wrapped ∨ stage' = .searched → s.usrID < 10000) (hne : stage ≠ .composed)
    (hne' : stage' ≠ .composed) : SessionInv (s.setThread t (.login stage' usr)) c := by
  refine hi.setThread ?_ ((hi.thread hpc).stage hlt) ?_ ?_
  · rintro (h' | _) hx
    · rw [hpc]
      exact .inl hx
    · rw [hpc]
      exact huses hx
  · intro u hu
    rw [hpc, AdpPc.login.injEq] at hu
    exact hne hu.1
  · intro u hu
    rw [AdpPc.login.injEq] at hu
    exact hne' hu.1

theorem SessionInv.increment (hi : SessionInv s c) (hpc : s.threads t = .login .registered usr)
    (hfree : s.Free .counter) :
    SessionInv ({ s with usrID := s.usrID + 1 }.setThread t (.login .incremented usr))
      { c with calls := c.calls + 1 } := by
  have hcount : (s.usrID + 1) % 10000 = (c.calls + 1) % 10000 := by
    have := hi.counter
    omega
  have hstage : ∀ t stage usr, s.threads t = .login stage usr →
      ¬ (stage = .wrapped ∨ stage = .searched) := by
    intro t' stage' usr' hpc' hst
    refine hfree t' ?_
    rw [hpc']
    exact .inr hst
  exact (hi.setCounter hcount hstage).setStage hpc (fun _ => .inr hfree) (by simp) (by simp)
    (by simp)

theorem SessionInv.wrap (hi : SessionInv s c) (hpc : s.threads t = .login .incremented usr) :
    SessionInv ({ s with usrID := s.usrID % 10000 }.setThread t (.login .wrapped usr)) c := by
  have hcount : s.usrID % 10000 % 10000 = c.calls % 10000 := by
    rw [Nat.mod_mod]
    exact hi.counter
  have hstage : ∀ t stage usr, s.threads t = .login stage usr →
      ¬ (stage = .wrapped ∨ stage = .searched) := by
    intro t' stage' usr' hpc' hst
    -- only this thread is in `MakeUsrID`
    have ht : t' = t := by
      refine hi.exclusive t' t .counter ?_ ?_
      · rw [hpc']
        exact .inr hst
      · rw [hpc]
        exact .inl rfl
    subst ht
    rw [hpc, AdpPc.login.injEq] at hpc'
    rw [← hpc'.1] at hst
    simp at hst
  exact (hi.setCounter hcount hstage).setStage hpc (fun _ => .inl (.inl rfl))
    (fun _ => Nat.mod_lt _ (by decide)) (by simp) (by simp)

theorem SessionInv.compose (hi : SessionInv s c) (hpc : s.threads t = .login .searched usr)
    (hfresh : ∀ r, s.HasID r → r.usrInfo.userLevel = usr.usrInfo.userLevel →
      c.serial r.apiHandle % 10000 ≠ c.calls % 10000) {handle : AdpAPIHandle}
    (hhandle : handle = { s.handles usr.apiHandle with
      usrID := composeID usr.usrInfo.userLevel s.usrID }) :
    SessionInv ((s.setHandle usr.apiHandle handle).setThread t (.login .composed usr))
      { c with serial := Function.update c.serial usr.apiHandle c.calls } := by
  obtain ⟨hlive, hjson, hopen, hlt⟩ := hi.thread hpc
  have huses : (s.threads t).Uses (.handle usr.apiHandle) := by rw [hpc]; rfl
  have hother : ∀ r, s.HasID r → r.apiHandle ≠ usr.apiHandle := by
    rintro r (hr | ⟨t', ht'⟩) heq
    · exact hlive r hr heq
    · have hne : t' ≠ t := by
        rintro rfl
        simp [hpc] at ht'
      exact hi.not_uses huses hne (by rw [ht']; exact heq)
  constructor
  · exact hi.exclusive.update fun x hx => by
      cases x with
      | handle h' => exact .inl (by rw [hpc]; exact hx)
      | counter => simp [AdpPc.Uses] at hx
  · exact hi.handles
  · refine (Function.forall_update_iff s.threads fun _ pc => ThreadOk _ pc).2 ⟨?_, fun t' hne => ?_⟩
    · have hname : ((s.setHandle usr.apiHandle handle).handles usr.apiHandle).usrName =
          (s.handles usr.apiHandle).usrName := by rw [AdpState.setHandle_self, hhandle]
      have hfun : ((s.setHandle usr.apiHandle handle).handles usr.apiHandle).functions =
          (s.handles usr.apiHandle).functions := by rw [AdpState.setHandle_self, hhandle]
      exact ⟨hlive, hjson, hopen.congr hname hfun, by simp⟩
    · refine (hi.threads t').frame (fun _ hr _ => hr) (fun _ hr => .inl hr) (fun _ hj => .inl hj)
        (fun h' hu => s.setHandle_of_ne handle ?_) (fun _ => rfl)
      rintro rfl
      exact hi.not_uses huses hne hu
  · intro r hr
    have hsame := s.setHandle_of_ne handle (hlive r hr)
    exact (hi.opened r hr).congr (congrArg _ hsame) (congrArg _ hsame)
  · exact hi.counter
  · refine hi.ids.compose ?_ hother hfresh ?_
    · -- the counter was wrapped and nobody else has moved it since
      have hid : s.usrID = c.calls % 10000 := by
        rw [← hi.counter, Nat.mod_eq_of_lt (hlt (.inr rfl))]
      rw [hhandle, hid]
    · intro r
      rw [hasID_setThread, hasID_iff t, hpc]
      simp only [AdpPc.login.injEq, reduceCtorEq, true_and, false_and, false_or, eq_comm (a := usr)]
      exact or_left_comm.trans or_comm

theorem SessionInv.addHandle (hi : SessionInv s c) (hpc : s.threads t = .login .composed usr) :
    SessionInv ({ s with listUsrRegistHead := s.listUsrRegistHead ++ [usr] }.setThread t .idle)
      c := by
  obtain ⟨hlive, hjson, hopen, -⟩ := hi.thread hpc
  have huses : (s.threads t).Uses (.handle usr.apiHandle) := by rw [hpc]; rfl
  constructor
  · exact hi.exclusive.update fun x hx => hx.elim
  · exact nodup_map_concat hi.handles hlive
  · refine (Function.forall_update_iff s.threads fun _ pc => ThreadOk _ pc).2
      ⟨trivial, fun t' hne => ?_⟩
    refine (hi.threads t').frame (fun _ hr _ => List.mem_append_left _ hr) (fun r hr => ?_)
      (fun _ hj => .inl hj) (fun _ _ => rfl) (fun _ => rfl)
    rcases List.mem_append.1 hr with hr | hr
    · exact .inl hr
    · obtain rfl := List.mem_singleton.1 hr
      exact .inr (hi.not_uses huses hne)
  · intro r hr
    rcases List.mem_append.1 hr with hr | hr
    · exact hi.opened r hr
    · obtain rfl := List.mem_singleton.1 hr
      exact hopen
  · exact hi.counter
  · refine hi.ids.congr fun r => ?_
    rw [hasID_setThread, hasID_iff t, hpc]
    simp only [List.mem_append, List.mem_singleton, AdpPc.login.injEq, reduceCtorEq, true_and,
      false_or, eq_comm (a := usr)]
    exact or_assoc

/-- The search by id finds the session of the handle the id was read from. -/
theorem SessionInv.handle_of_found (hi : SessionInv s c)
    (hfound : s.getUsrRegistInfo (s.handles h).usrID = some usr) : usr.apiHandle = h := by
  have hmem := mem_of_lookup hfound
  have hid : s.sessionID usr = (s.handles h).usrID := key_of_lookup hfound
  -- the id of a session is never zero, so the handle is not a clear one
  have hpos : (s.handles h).usrID ≠ 0 := by
    have := composeID_large (hi.opened usr hmem).level
      (Nat.mod_lt (c.serial usr.apiHandle) (by decide : 0 < 10000))
    rw [← hid, AdpState.sessionID, hi.ids.id usr (.inl hmem)]
    omega
  obtain ⟨usr', husr', rfl⟩ := hi.ids.clear h hpos
  exact hi.ids.handle_eq (.inl hmem) husr' hid

theorem SessionInv.unRegist (hi : SessionInv s c) (hidle : s.threads t = .idle)
    (hfree : s.Free (.handle h)) (hfound : s.getUsrRegistInfo (s.handles h).usrID = some usr) :
    SessionInv (s.setThread t (.logout h usr)) c := by
  refine hi.setThread ?_ ⟨mem_of_lookup hfound, hi.handle_of_found hfound⟩ ?_ (by simp)
  · rintro (h' | _) hx
    · obtain rfl : h = h' := hx
      exact .inr hfree
    · exact hx.elim
  · intro u hu
    rw [hidle] at hu
    cases hu

theorem SessionInv.delHandle (hi : SessionInv s c) (hpc : s.threads t = .logout h usr) :
    SessionInv (({ s with listUsrRegistHead := s.listUsrRegistHead.erase usr }.initNoAuthor
      h).setThread t .idle) c := by
  obtain ⟨hmem, rfl⟩ := hi.thread hpc
  have huses : (s.threads t).Uses (.handle usr.apiHandle) := by rw [hpc]; rfl
  -- handles are distinct, so the record removed is the only one on its handle
  have herase : ∀ r, r ∈ s.listUsrRegistHead.erase usr ↔
      r ∈ s.listUsrRegistHead ∧ r.apiHandle ≠ usr.apiHandle := by
    intro r
    rw [(List.Nodup.of_map _ hi.handles).mem_erase_iff]
    constructor
    · intro ⟨hne, hr⟩
      exact ⟨hr, fun heq => hne (List.inj_on_of_nodup_map hi.handles hr hmem heq)⟩
    · intro ⟨hr, hne⟩
      exact ⟨fun heq => hne (by rw [heq]), hr⟩
  constructor
  · exact hi.exclusive.update fun x hx => hx.elim
  · exact hi.handles.sublist (List.erase_sublist.map _)
  · refine (Function.forall_update_iff s.threads fun _ pc => ThreadOk _ pc).2
      ⟨trivial, fun t' hne => ?_⟩
    have hother : ∀ h', (s.threads t').Uses (.handle h') → h' ≠ usr.apiHandle := by
      rintro _ hu rfl
      exact hi.not_uses huses hne hu
    exact (hi.threads t').frame (fun r hr hu => (herase r).2 ⟨hr, hother _ hu⟩)
      (fun r hr => .inl ((herase r).1 hr).1) (fun _ hj => .inl hj)
      (fun h' hu => AdpState.setHandle_of_ne _ _ (hother h' hu)) (fun _ => rfl)
  · intro r hr
    obtain ⟨hr, hrne⟩ := (herase r).1 hr
    have hsame := AdpState.setHandle_of_ne s { s.handles usr.apiHandle with
      usrID := 0
      functions := initNoAuthorFunctions (s.handles usr.apiHandle).functions } hrne
    exact (hi.opened r hr).congr (congrArg _ hsame) (congrArg _ hsame)
  · exact hi.counter
  · refine hi.ids.clearHandle rfl fun r => ?_
    have hothers : (∃ t' ≠ t, s.threads t' = .login .composed r) → r.apiHandle ≠ usr.apiHandle := by
      rintro ⟨t', hne, ht'⟩ heq
      exact hi.not_uses huses hne (by rw [ht']; exact heq)
    rw [hasID_setThread, hasID_iff t, hpc]
    simp only [reduceCtorEq, false_or, or_and_right]
    exact or_congr (herase r) (and_iff_left_of_imp hothers).symm

theorem SessionInv.setJson (hi : SessionInv s c) {list : List HandlePtr}
    (hlist : ∀ h ∈ list, h ∈ s.jsonListHead ∨ ∃ r ∈ s.listUsrRegistHead, r.apiHandle = h) :
    SessionInv { s with jsonListHead := list } c where
  exclusive := hi.exclusive
  handles := hi.handles
  threads t := by
    have hok := hi.threads t
    cases hpc : s.threads t with
    | idle => trivial
    | login stage usr =>
        rw [hpc] at hok
        refine ⟨hok.1, fun hj => ?_, hok.2.2⟩
        rcases hlist _ hj with hj | ⟨r, hr, heq⟩
        · exact hok.2.1 hj
        · exact hok.1 r hr heq
    | logout h usr =>
        rw [hpc] at hok
        exact hok
  opened := hi.opened
  counter := hi.counter
  ids := hi.ids

/-- **Step lemma.** Every orderly step keeps the invariant. -/
theorem SessionInv.step {e : AdpEvent} (hi : SessionInv s c) (hord : Orderly (s, c) e)
    (hs : AdpStep s e s') : SessionInv s' (c.tick s e) := by
  unfold AdpStep at hs
  cases e with
  | users usrs =>
      obtain rfl := Option.some.inj hs
      exact ⟨hi.exclusive, hi.handles, hi.threads, hi.opened, hi.counter, hi.ids⟩
  | regist t h usrName passwd =>
      simp only [adpStep] at hs
      split at hs
      · next hidle => exact hi.regist hidle hord.1 hord.2.1 hord.2.2.1 hord.2.2.2 hs
      · cases hs
  | increment t =>
      simp only [adpStep] at hs
      split at hs
      · next usr hpc =>
          obtain rfl := Option.some.inj hs
          exact hi.increment hpc hord
      · cases hs
  | wrap t =>
      simp only [adpStep] at hs
      split at hs
      · next usr hpc =>
          obtain rfl := Option.some.inj hs
          exact hi.wrap hpc
      · cases hs
  | search t =>
      simp only [adpStep] at hs
      split at hs
      · next usr hpc =>
          -- the number is free, or it is taken and the login counts on
          split at hs
          · obtain rfl := Option.some.inj hs
            have hlt := (hi.thread hpc).2.2.2 (.inl rfl)
            exact hi.setStage hpc (fun _ => .inl (.inr (.inl rfl))) (fun _ => hlt) (by simp)
              (by simp)
          · obtain rfl := Option.some.inj hs
            exact hi.setStage hpc (by simp [AdpPc.Uses]) (by simp) (by simp) (by simp)
      · cases hs
  | compose t =>
      simp only [adpStep] at hs
      split at hs
      · next usr hpc =>
          obtain rfl := Option.some.inj hs
          have htick : c.tick s (.compose t) =
              { c with serial := Function.update c.serial usr.apiHandle c.calls } := by
            simp only [Clock.tick, hpc]
          rw [htick]
          exact hi.compose hpc (hord usr hpc) rfl
      · cases hs
  | addHandle t =>
      simp only [adpStep] at hs
      split at hs
      · next usr hpc =>
          obtain rfl := Option.some.inj hs
          exact hi.addHandle hpc
      · cases hs
  | unRegist t h =>
      simp only [adpStep] at hs
      split at hs
      · next hidle =>
          split at hs
          · obtain rfl := Option.some.inj hs
            exact hi
          · next usr hfound =>
              obtain rfl := Option.some.inj hs
              exact hi.unRegist hidle hord hfound
      · cases hs
  | delHandle t =>
      simp only [adpStep] at hs
      split at hs
      · next h usr hpc =>
          split at hs
          · obtain rfl := Option.some.inj hs
            exact hi.delHandle hpc
          · cases hs
      · cases hs
  | funLogin h =>
      simp only [adpStep] at hs
      split at hs
      · next hlive =>
          obtain rfl := Option.some.inj hs
          refine hi.setJson fun h' hh' => ?_
          rcases List.mem_append.1 hh' with hh' | hh'
          · exact .inl hh'
          · obtain rfl := List.mem_singleton.1 hh'
            exact .inr hlive
      · cases hs
  | funLoginOut h =>
      obtain rfl := Option.some.inj hs
      exact hi.setJson fun h' hh' => .inl (List.mem_of_mem_erase hh')

end Steps

end SmartPlat.Adp
