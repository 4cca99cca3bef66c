import SmartPlat.UsrManage.Operations

set_option autoImplicit false

/-! # What a call does to the list of users

`UsrWrite` says once, call by call, which checks a call has passed, the list it leaves and the
callback it then calls; `UsrChange` is the part of it about the list. `UsrCall.run_writes` and
`UsrCall.run_cases` say that a call that returns either changes nothing and reports failure, or does
this. Everything about histories of calls is derived from them. -/

namespace SmartPlat.UsrManage

open SmartPlat.Lib

variable {δ : Type*}

/-- `InitUsrList` gets as far as adding these rows. -/
def LoadsRows (cb : UsrManageHandle δ) (s : UsrManageInner δ) (rows : List UsrInfo) : Prop :=
  ∃ getList getNum iret, cb.getUsrInfoListcb = some getList ∧ cb.getUsrInfoListNumcb = some getNum ∧
    0 < getNum s.db ∧ getList s.db = .ok (iret, rows) ∧ iret ≠ keyFalse ∧
    (rows.length : ℤ) = getNum s.db

/-- The change a call makes to the list of `s` once its checks are passed. -/
inductive UsrChange (cb : UsrManageHandle δ) (s : UsrManageInner δ) :
    UsrCall → List UsrInfo → Prop
  | initUsrList {rows : List UsrInfo} (loads : LoadsRows cb s rows) :
      UsrChange cb s .initUsrList (s.listHead ++ loadedUsrs rows)
  | addUsr {cur info : UsrInfo} {usrID : UInt32} (level : info.userLevel ≤ cur.userLevel)
      (newName : findByName info.name s.listHead = none)
      (newID : ∀ u ∈ s.listHead, u.usrID ≠ usrID) :
      UsrChange cb s (.addUsr cur info) (s.listHead ++ [{ info with usrID }])
  | delUsr {cur usrInfo info : UsrInfo} (found : findByName usrInfo.name s.listHead = some info)
      (level : info.userLevel ≤ cur.userLevel) :
      UsrChange cb s (.delUsr cur usrInfo) (eraseFirst UserRegistInfo.name usrInfo.name s.listHead)
  | modifyUsrInfo {cur usrInfo info : UsrInfo} (valid : checkUsrInfoValidity usrInfo ≠ keyFalse)
      (own : cur.name = usrInfo.name) (level : usrInfo.userLevel ≤ cur.userLevel)
      (found : findByName usrInfo.name s.listHead = some info) :
      UsrChange cb s (.modifyUsrInfo cur usrInfo)
        (writeByName usrInfo.name (keepLevelAndPassword usrInfo) s).listHead
  | modifyUsrBindInfo {info usrinfo : UsrInfo} {old : CString}
      (found : findByName old s.listHead = some usrinfo) :
      UsrChange cb s (.modifyUsrBindInfo info old) (writeByName old (rebind info) s).listHead
  | modifyPassword {username old new : CString} {info : UsrInfo}
      {passWord : CharArray dfMaxlenPasswd} (found : findByName username s.listHead = some info)
      (oldPassword : info.passWord.str = old) (newPassword : passWord.str = new) :
      UsrChange cb s (.modifyPassword username old new)
        (writeByName username (fun info => { info with passWord }) s).listHead
  | resetPassword {username countrycode password : CString} {info : UsrInfo}
      {passWord : CharArray dfMaxlenPasswd} (found : findByName username s.listHead = some info)
      (newPassword : passWord.str = password) :
      UsrChange cb s (.resetPassword username countrycode password)
        (writeByName username (fun info => { info with passWord }) s).listHead

/-- What a call other than `InitUsrList` does once its checks are passed: the callback it calls, and
    the list it leaves. -/
inductive UsrWrite (cb : UsrManageHandle δ) (s : UsrManageInner δ) :
    UsrCall → Option (δ → Except Fault (ℤ × δ)) → List UsrInfo → Prop
  | addUsr {cur info : UsrInfo} {usrID : UInt32} (check : checkUser cur info s = keyTrue)
      (newID : ∀ u ∈ s.listHead, u.usrID ≠ usrID) :
      UsrWrite cb s (.addUsr cur info) (cb.addUsrcb.map (· { info with usrID }))
        (s.listHead ++ [{ info with usrID }])
  | delUsr {cur usrInfo info : UsrInfo} (found : findByName usrInfo.name s.listHead = some info)
      (level : info.userLevel ≤ cur.userLevel) :
      UsrWrite cb s (.delUsr cur usrInfo) (cb.delUsrcb.map (· none))
        (eraseFirst UserRegistInfo.name usrInfo.name s.listHead)
  | modifyUsrInfo {cur usrInfo info : UsrInfo} (valid : checkUsrInfoValidity usrInfo ≠ keyFalse)
      (own : cur.name = usrInfo.name) (level : usrInfo.userLevel ≤ cur.userLevel)
      (found : findByName usrInfo.name s.listHead = some info) :
      UsrWrite cb s (.modifyUsrInfo cur usrInfo)
        (cb.setUsrInfocb.map (· (keepLevelAndPassword usrInfo info)))
        (writeByName usrInfo.name (keepLevelAndPassword usrInfo) s).listHead
  | modifyUsrBindInfo {info usrinfo : UsrInfo} {old : CString}
      (found : findByName old s.listHead = some usrinfo) :
      UsrWrite cb s (.modifyUsrBindInfo info old)
        (cb.modifyUsrBindInfocb.map (· (rebind info usrinfo) old))
        (writeByName old (rebind info) s).listHead
  | modifyPassword {username old new : CString} {info : UsrInfo}
      {passWord : CharArray dfMaxlenPasswd} (found : findByName username s.listHead = some info)
      (oldPassword : info.passWord.str = old) (newPassword : passWord.str = new) :
      UsrWrite cb s (.modifyPassword username old new)
        (cb.setUsrInfocb.map (· { info with passWord }))
        (writeByName username (fun info => { info with passWord }) s).listHead
  | resetPassword {username countrycode password : CString} {info : UsrInfo}
      {passWord : CharArray dfMaxlenPasswd} (found : findByName username s.listHead = some info)
      (newPassword : passWord.str = password) :
      UsrWrite cb s (.resetPassword username countrycode password)
        (cb.setUsrInfocb.map (· { info with passWord }))
        (writeByName username (fun info => { info with passWord }) s).listHead

/-- How a call ends: refused with the state as it was, or with the change made. -/
def Ends (cb : UsrManageHandle δ) (s : UsrManageInner δ) (c : UsrCall) (rc : ℤ)
    (s' : UsrManageInner δ) : Prop :=
  (rc ≠ keyTrue ∧ s' = s) ∨ UsrChange cb s c s'.listHead

/-- The same with the callback: refused, or the callback called on the list already written. -/
def Writes (cb : UsrManageHandle δ) (s : UsrManageInner δ) (c : UsrCall) (rc : ℤ)
    (s' : UsrManageInner δ) : Prop :=
  (rc ≠ keyTrue ∧ s' = s) ∨ ∃ call users i iret, UsrWrite cb s c call users ∧
    callback call iret ⟨users, i, s.db⟩ = .ok (rc, s')

variable {cb : UsrManageHandle δ} {s s' : UsrManageInner δ} {rc : ℤ}

/-! ## Peeling results apart -/

theorem refused {code : ℤ} (hcode : code ≠ keyTrue)
    (h : (.ok (code, s) : UsrResult δ) = .ok (rc, s')) : rc ≠ keyTrue ∧ s' = s := by
  simp only [Except.ok.injEq, Prod.mk.injEq] at h
  exact ⟨h.1 ▸ hcode, h.2.symm⟩

theorem bind_eq_ok {ε α β : Type*} {x : Except ε α} {f : α → Except ε β} {b : β}
    (h : x.bind f = .ok b) : ∃ a, x = .ok a ∧ f a = .ok b := by
  cases x with
  | error e => simp [Except.bind] at h
  | ok a => exact ⟨a, rfl, h⟩

theorem keyFalse_ne : keyFalse ≠ keyTrue := by decide

theorem keyNotfound_ne : keyNotfound ≠ keyTrue := by decide

/-! ## Fresh ids -/

/-- The id the loop returns belongs to nobody. -/
theorem createUsridLoop_fresh {users : List UsrInfo} {fuel : ℕ} {i : UInt32} {r : UInt32 × UInt32}
    (h : createUsridLoop users fuel i = .ok r) : ∀ u ∈ users, u.usrID ≠ r.1 := by
  induction fuel generalizing i with
  | zero => simp [createUsridLoop] at h
  | succ fuel ih =>
      rw [createUsridLoop] at h
      split at h
      · next hnone =>
          rw [Except.ok.injEq] at h
          subst h
          exact lookup_eq_none.1 hnone
      · exact ih h

/-! ## One lemma for each call -/

theorem modifyPassword_writes {username old new : CString}
    (h : modifyPassword cb username old new s = .ok (rc, s')) :
    Writes cb s (.modifyPassword username old new) rc s' := by
  unfold modifyPassword at h
  split at h
  · exact .inl (refused keyFalse_ne h)
  · split at h
    · simp at h
    · next info found =>
        split at h
        · next hold =>
            obtain ⟨passWord, hnew, hcb⟩ := bind_eq_ok h
            exact .inr ⟨_, _, _, _, .modifyPassword found hold (sprintf_eq_ok_iff.1 hnew), hcb⟩
        · exact .inl (refused keyFalse_ne h)

theorem resetPassword_writes {username countrycode password : CString}
    (h : resetPassword cb username countrycode password s = .ok (rc, s')) :
    Writes cb s (.resetPassword username countrycode password) rc s' := by
  unfold resetPassword at h
  split at h
  · exact .inl (refused keyNotfound_ne h)
  · next info found =>
      obtain ⟨passWord, hnew, hcb⟩ := bind_eq_ok h
      exact .inr ⟨_, _, _, _, .resetPassword found (sprintf_eq_ok_iff.1 hnew), hcb⟩

theorem modifyUsrInfo_writes {cur usrInfo : UsrInfo}
    (h : modifyUsrInfo cb cur usrInfo s = .ok (rc, s')) :
    Writes cb s (.modifyUsrInfo cur usrInfo) rc s' := by
  unfold modifyUsrInfo at h
  split at h
  · exact .inl (refused keyFalse_ne h)
  · next valid =>
      split at h
      · exact .inl (refused keyFalse_ne h)
      · next hguard =>
          rw [not_or, not_not, not_lt] at hguard
          split at h
          · exact .inl (refused keyFalse_ne h)
          · next info found =>
              exact .inr ⟨_, _, _, _, .modifyUsrInfo valid hguard.1 hguard.2 found, h⟩

theorem modifyUsrBindInfo_writes {info : UsrInfo} {old : CString}
    (h : modifyUsrBindInfo cb info old s = .ok (rc, s')) :
    Writes cb s (.modifyUsrBindInfo info old) rc s' := by
  unfold modifyUsrBindInfo at h
  split at h
  · exact .inl (refused keyFalse_ne h)
  · next usrinfo found => exact .inr ⟨_, _, _, _, .modifyUsrBindInfo found, h⟩

theorem checkUser_eq_keyTrue {cur info : UsrInfo} (h : checkUser cur info s = keyTrue) :
    info.userLevel ≤ cur.userLevel ∧ findByName info.name s.listHead = none := by
  unfold checkUser at h
  split at h
  · exact absurd h keyFalse_ne
  · split at h
    · exact absurd h keyFalse_ne
    · next hlevel =>
        split at h
        · exact absurd h (by decide)
        · next hname => exact ⟨not_lt.1 hlevel, Option.not_isSome_iff_eq_none.1 hname⟩

theorem addUsr_writes {cur info : UsrInfo} (h : addUsr cb cur info s = .ok (rc, s')) :
    Writes cb s (.addUsr cur info) rc s' := by
  unfold addUsr at h
  split at h
  · exact .inl (refused keyFalse_ne h)
  · split at h
    · exact .inl (refused keyFalse_ne h)
    · next hcheck =>
        obtain ⟨r, hid, hcb⟩ := bind_eq_ok h
        exact .inr ⟨_, _, _, _, .addUsr (not_not.1 hcheck) (createUsridLoop_fresh hid), hcb⟩

theorem delUsr_writes {cur usrInfo : UsrInfo} (h : delUsr cb cur usrInfo s = .ok (rc, s')) :
    Writes cb s (.delUsr cur usrInfo) rc s' := by
  unfold delUsr at h
  split at h
  · exact .inl (refused keyFalse_ne h)
  · next info found =>
      split at h
      · exact .inl (refused keyFalse_ne h)
      · next hlevel => exact .inr ⟨_, _, _, _, .delUsr found (not_lt.1 hlevel), h⟩

theorem initUsrList_cases (h : initUsrList cb s = .ok (rc, s')) :
    Ends cb s .initUsrList rc s' := by
  unfold initUsrList at h
  split at h
  · next getList getNum hlist hnum =>
      split at h
      · exact .inl (refused keyFalse_ne h)
      · next hpos =>
          obtain ⟨⟨iret, rows⟩, fetched, hload⟩ := bind_eq_ok h
          split at hload
          · exact .inl (refused keyFalse_ne hload)
          · next hiret =>
              split at hload
              · simp at hload
              · next hlen =>
                  simp only [Except.ok.injEq, Prod.mk.injEq] at hload
                  refine .inr ?_
                  rw [← hload.2]
                  exact .initUsrList ⟨getList, getNum, iret, hlist, hnum, Int.not_le.1 hpos, fetched,
                    hiret, not_not.1 hlen⟩
  · exact .inl (refused keyFalse_ne h)

theorem UsrCall.run_writes {c : UsrCall} (hc : c ≠ .initUsrList)
    (h : c.run cb s = .ok (rc, s')) : Writes cb s c rc s' := by
  cases c with
  | initUsrList => exact absurd rfl hc
  | addUsr cur info => exact addUsr_writes h
  | delUsr cur usrInfo => exact delUsr_writes h
  | modifyUsrInfo cur usrInfo => exact modifyUsrInfo_writes h
  | modifyUsrBindInfo info old => exact modifyUsrBindInfo_writes h
  | modifyPassword username old new => exact modifyPassword_writes h
  | resetPassword username countrycode password => exact resetPassword_writes h

theorem UsrWrite.change {c : UsrCall} {call : Option (δ → Except Fault (ℤ × δ))}
    {users : List UsrInfo} (h : UsrWrite cb s c call users) : UsrChange cb s c users := by
  cases h with
  | addUsr check newID =>
      obtain ⟨hlevel, hname⟩ := checkUser_eq_keyTrue check
      exact .addUsr hlevel hname newID
  | delUsr found level => exact .delUsr found level
  | modifyUsrInfo valid own level found => exact .modifyUsrInfo valid own level found
  | modifyUsrBindInfo found => exact .modifyUsrBindInfo found
  | modifyPassword found oldPassword newPassword =>
      exact .modifyPassword found oldPassword newPassword
  | resetPassword found newPassword => exact .resetPassword found newPassword

/-- **Inversion.** A call that returns was refused and left the state alone, or made its change. -/
theorem UsrCall.run_cases {c : UsrCall} (h : c.run cb s = .ok (rc, s')) : Ends cb s c rc s' := by
  by_cases hc : c = .initUsrList
  · subst hc
    exact initUsrList_cases h
  · rcases UsrCall.run_writes hc h with hrefused | ⟨call, users, i, iret, hwrite, hcb⟩
    · exact .inl hrefused
    · refine .inr ?_
      rw [callback_eq_ok hcb]
      exact hwrite.change

theorem UsrStep.change {c : UsrCall} (h : UsrStep cb s c s') :
    s'.listHead = s.listHead ∨ UsrChange cb s c s'.listHead := by
  obtain ⟨rc, hrun⟩ := h
  exact (UsrCall.run_cases hrun).imp_left fun hrefused => by rw [hrefused.2]

theorem UsrSuccess.change {c : UsrCall} (h : UsrSuccess cb s c s') :
    UsrChange cb s c s'.listHead :=
  (UsrCall.run_cases h).resolve_left fun hrefused => hrefused.1 rfl

end SmartPlat.UsrManage
