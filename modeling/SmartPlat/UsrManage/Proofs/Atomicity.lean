import SmartPlat.UsrManage.Proofs.Accounts

set_option autoImplicit false

/-! # Failed writes to the database

Every operation changes the list first and calls the database after it, and none undoes the change
when the call fails. `WriteSafe` says when a call on a list that mirrors the database is atomic all
the same. -/

namespace SmartPlat.UsrManage

open SmartPlat.Lib

/-! ## The database as a map -/

abbrev UsrMap := CString → Option UsrInfo

/-- What a callback does that returns `rc`: a failure leaves the map alone. -/
def mapWrite (rc : ℤ) (f : UsrMap → UsrMap) (db : UsrMap) : Except Fault (ℤ × UsrMap) :=
  .ok (rc, if rc = keyTrue then f db else db)

/-- Callbacks on the map. A deletion reads the name in the record it is handed; the list has been
    loaded before. -/
def mapHandle (rc : ℤ) : UsrManageHandle UsrMap where
  addUsrcb := some fun info => mapWrite rc fun db => Function.update db info.name (some info)
  delUsrcb := some fun
    | none, _ => .error .badAccess
    | some info, db => mapWrite rc (fun db => Function.update db info.name none) db
  setUsrInfocb := some fun info => mapWrite rc fun db => Function.update db info.name (some info)
  getUsrInfoListcb := none
  getUsrInfoListNumcb := none
  modifyUsrBindInfocb := some fun info old => mapWrite rc fun db =>
    Function.update (Function.update db old none) info.name (some info)

/-- The list and the map hold the same records. -/
structure Mirrors (s : UsrManageInner UsrMap) : Prop where
  names : (s.listHead.map UserRegistInfo.name).Nodup
  db : s.db = fun name => findByName name s.listHead

/-- The call does not crash; a failure leaves the list as it was, and the map, and after a success
    the two hold the same records. -/
def Atomic (rc : ℤ) (s : UsrManageInner UsrMap) (c : UsrCall) : Prop :=
  c.run (mapHandle rc) s ≠ .error .badAccess ∧
    ∀ r s', c.run (mapHandle rc) s = .ok (r, s') →
      if r = keyTrue then Mirrors s' else s'.listHead = s.listHead ∧ s'.db = s.db

/-- When a call whose callback returns `rc` is atomic: it is refused before the callback, or the
    callback succeeds, or it writes what is stored already. No accepted `DelUsr` is, nor a
    `ModifyPassword` for a name nobody has, nor a rename to a taken name; and an `AddUsr` that finds
    no id left does not return. -/
def WriteSafe (s : UsrManageInner UsrMap) : UsrCall × ℤ → Prop
  | (.initUsrList, _) => True
  | (.addUsr cur info, rc) => checkUser cur info s = keyTrue →
      (∃ id, ∀ u ∈ s.listHead, u.usrID ≠ id) → rc = keyTrue
  | (.delUsr cur usrInfo, _) => ∀ info, findByName usrInfo.name s.listHead = some info →
      cur.userLevel < info.userLevel
  | (.modifyUsrInfo cur usrInfo, rc) => checkUsrInfoValidity usrInfo ≠ keyFalse →
      cur.name = usrInfo.name → usrInfo.userLevel ≤ cur.userLevel →
      ∀ info, findByName usrInfo.name s.listHead = some info → rc = keyTrue ∨
        usrInfo = { info with userLevel := usrInfo.userLevel, passWord := usrInfo.passWord }
  | (.modifyUsrBindInfo info old, rc) =>
      ∀ usrinfo, findByName old s.listHead = some usrinfo →
        if rc = keyTrue then info.name = old ∨ ∀ u ∈ s.listHead, u.name ≠ info.name
        else info.usrname = usrinfo.usrname ∧ info.countrycode = usrinfo.countrycode
  | (.modifyPassword username old new, rc) =>
      old.strlen ≤ effectiveLength → new.strlen ≤ effectiveLength →
      ∃ info, findByName username s.listHead = some info ∧
        (info.passWord.str = old → rc = keyTrue ∨ info.passWord.str = new)
  | (.resetPassword username _ password, rc) =>
      ∀ info, findByName username s.listHead = some info →
        password.strlen ≤ dfMaxlenPasswd ∧ (rc = keyTrue ∨ info.passWord.str = password)

variable {s s' s₀ : UsrManageInner UsrMap} {c : UsrCall} {rc : ℤ}

/-! ## Calls that are refused, and calls that write -/

theorem atomic_of_refused {code : ℤ} (hrun : c.run (mapHandle rc) s = .ok (code, s))
    (hcode : code ≠ keyTrue) : Atomic rc s c := by
  refine ⟨fun h => ?_, fun r s' h => ?_⟩
  · rw [hrun] at h
    cases h
  · rw [hrun, Except.ok.injEq, Prod.mk.injEq] at h
    obtain ⟨rfl, rfl⟩ := h
    rw [if_neg hcode]
    exact ⟨rfl, rfl⟩

theorem not_atomic_of_crash (hrun : c.run (mapHandle rc) s = .error .badAccess) :
    ¬ Atomic rc s c := fun h => h.1 hrun

theorem atomic_iff_of_written (users : List UsrInfo) (i : UInt32) (db : UsrMap)
    (hrun : c.run (mapHandle rc) s = .ok (rc, ⟨users, i, if rc = keyTrue then db else s.db⟩)) :
    Atomic rc s c ↔ if rc = keyTrue then Mirrors ⟨users, i, db⟩ else users = s.listHead := by
  rw [Atomic, hrun]
  split
  · simp_all
  · simp_all

theorem Mirrors.add (hm : Mirrors s) {u : UsrInfo} (hnew : findByName u.name s.listHead = none)
    (i : UInt32) : Mirrors ⟨s.listHead ++ [u], i, Function.update s.db u.name (some u)⟩ where
  names := nodup_map_concat hm.names (lookup_eq_none.1 hnew)
  db := by
    funext name
    rw [hm.db]
    exact (lookup_concat (lookup_eq_none.1 hnew) name).symm

/-- Moving the record found to a new name, in the list and in the map. -/
theorem Mirrors.write_iff (hm : Mirrors s) {name : CString} {f : UsrInfo → UsrInfo} {u : UsrInfo}
    (found : findByName name s.listHead = some u) (i : UInt32) :
    Mirrors ⟨(writeByName name f s).listHead, i,
        Function.update (Function.update s.db name none) (f u).name (some (f u))⟩ ↔
      ∀ v ∈ s.listHead, v.name = (f u).name → v.name = name := by
  have hname : u.name = name := key_of_lookup found
  constructor
  · intro h v hv hvn
    rw [← hname]
    exact (nodup_map_modifyFirst_iff hm.names found).1 h.names v hv hvn
  · intro hfresh
    refine ⟨nodup_map_modifyFirst hm.names found fun v hv hvn => ?_, funext fun k => ?_⟩
    · exact (hfresh v hv hvn).trans hname.symm
    · rw [hm.db]
      exact (lookup_modifyFirst hm.names found hfresh k).symm

/-- A write of the record found, under its name. -/
theorem atomic_write_iff (hm : Mirrors s) {name : CString} {f : UsrInfo → UsrInfo} {u : UsrInfo}
    (found : findByName name s.listHead = some u) (hname : (f u).name = name)
    (hrun : c.run (mapHandle rc) s = .ok (rc, ⟨(writeByName name f s).listHead, s.i,
      if rc = keyTrue then Function.update s.db (f u).name (some (f u)) else s.db⟩)) :
    Atomic rc s c ↔ rc = keyTrue ∨ f u = u := by
  rw [atomic_iff_of_written _ _ _ hrun]
  split
  · next hrc =>
      refine iff_of_true ?_ (.inl hrc)
      have hmirror := (hm.write_iff (f := f) found s.i).2 fun v _ hv => hv.trans hname
      rw [hname, Function.update_idem] at hmirror
      rwa [hname]
  · next hrc => rw [or_iff_right hrc, writeByName, modifyFirst_eq_self_iff found]

theorem set_passWord_eq_iff {info : UsrInfo} {passWord : CharArray dfMaxlenPasswd} :
    { info with passWord } = info ↔ info.passWord.str = passWord.str := by
  obtain ⟨level, usrname, ⟨str, fits⟩, countrycode, customname, usrID⟩ := info
  obtain ⟨str', fits'⟩ := passWord
  simp [eq_comm]

/-! ## One lemma for each call -/

theorem addUsr_atomic_iff (hm : Mirrors s) {cur info : UsrInfo} :
    Atomic rc s (.addUsr cur info) ↔ WriteSafe s (.addUsr cur info, rc) := by
  by_cases hcheck : checkUser cur info s = keyTrue
  · have hvalid : checkUsrInfoValidity info ≠ keyFalse := fun h => by
      rw [checkUser, if_pos h] at hcheck
      exact keyFalse_ne hcheck
    have hnew := (checkUser_eq_keyTrue hcheck).2
    cases hid : createUsrid s with
    | error e =>
        -- every id is taken
        have hnone : ¬ ∃ id, ∀ u ∈ s.listHead, u.usrID ≠ id := by
          intro ⟨id, hfree⟩
          obtain ⟨r, hr⟩ := createUsrid_of_free hfree
          rw [hid] at hr
          cases hr
        have hrun : (UsrCall.addUsr cur info).run (mapHandle rc) s = .error e := by
          simp [UsrCall.run, addUsr, hvalid, hcheck, hid, Except.bind]
        refine iff_of_true ⟨?_, ?_⟩ fun _ h => absurd h hnone
        · rw [hrun, createUsridLoop_error hid]
          simp
        · simp [hrun]
    | ok r =>
        have hfree : ∃ id, ∀ u ∈ s.listHead, u.usrID ≠ id := ⟨r.1, createUsridLoop_fresh hid⟩
        rw [atomic_iff_of_written (s.listHead ++ [{ info with usrID := r.1 }]) r.2
          (Function.update s.db info.name (some { info with usrID := r.1 }))
          (by simp [UsrCall.run, addUsr, hvalid, hcheck, hid, Except.bind, callback, mapHandle,
            mapWrite, Except.map])]
        split
        · next hrc => exact iff_of_true (hm.add (u := { info with usrID := r.1 }) hnew _) fun _ _ => hrc
        · next hrc => exact iff_of_false (by simp) fun h => hrc (h hcheck hfree)
  · refine iff_of_true (atomic_of_refused ?_ keyFalse_ne) fun h => absurd h hcheck
    by_cases hvalid : checkUsrInfoValidity info = keyFalse
    · simp [UsrCall.run, addUsr, hvalid]
    · simp [UsrCall.run, addUsr, hvalid, hcheck]

theorem delUsr_atomic_iff {cur usrInfo : UsrInfo} :
    Atomic rc s (.delUsr cur usrInfo) ↔ WriteSafe s (.delUsr cur usrInfo, rc) := by
  cases found : findByName usrInfo.name s.listHead with
  | none =>
      refine iff_of_true (atomic_of_refused ?_ keyFalse_ne) fun info h => ?_
      · simp [UsrCall.run, delUsr, found]
      · simp [found] at h
  | some info =>
      by_cases hlevel : cur.userLevel < info.userLevel
      · refine iff_of_true (atomic_of_refused ?_ keyFalse_ne) fun info' h => ?_
        · simp [UsrCall.run, delUsr, found, hlevel]
        · rw [found, Option.some.injEq] at h
          exact h ▸ hlevel
      · refine iff_of_false (not_atomic_of_crash ?_) fun h => hlevel (h info found)
        simp [UsrCall.run, delUsr, found, hlevel, callback, mapHandle, Except.map]

theorem modifyUsrInfo_atomic_iff (hm : Mirrors s) {cur usrInfo : UsrInfo} :
    Atomic rc s (.modifyUsrInfo cur usrInfo) ↔ WriteSafe s (.modifyUsrInfo cur usrInfo, rc) := by
  by_cases hpass : checkUsrInfoValidity usrInfo ≠ keyFalse ∧ cur.name = usrInfo.name ∧
      usrInfo.userLevel ≤ cur.userLevel
  · obtain ⟨hvalid, hown, hlevel⟩ := hpass
    cases found : findByName usrInfo.name s.listHead with
    | none =>
        refine iff_of_true (atomic_of_refused ?_ keyFalse_ne) fun _ _ _ info h => ?_
        · simp [UsrCall.run, modifyUsrInfo, hvalid, hown, not_lt.2 hlevel, found]
        · simp [found] at h
    | some info =>
        have hname : (keepLevelAndPassword usrInfo info).name = usrInfo.name := rfl
        have hsame : keepLevelAndPassword usrInfo info = info ↔ usrInfo =
            { info with userLevel := usrInfo.userLevel, passWord := usrInfo.passWord } := by
          cases usrInfo
          cases info
          simp [keepLevelAndPassword]
        rw [atomic_write_iff hm found hname (by
          simp [UsrCall.run, modifyUsrInfo, hvalid, hown, not_lt.2 hlevel, found, callback,
            mapHandle, mapWrite, Except.map, writeByName]), hsame]
        constructor
        · intro h _ _ _ info' found'
          obtain rfl := Option.some.inj (found.symm.trans found')
          exact h
        · intro h
          exact h hvalid hown hlevel info found
  · refine iff_of_true (atomic_of_refused ?_ keyFalse_ne) fun hvalid hown hlevel =>
      absurd ⟨hvalid, hown, hlevel⟩ hpass
    simp only [UsrCall.run, modifyUsrInfo]
    split
    · rfl
    · next hvalid =>
        rw [if_pos]
        by_contra hguard
        rw [not_or, not_not, not_lt] at hguard
        exact hpass ⟨hvalid, hguard⟩

theorem modifyUsrBindInfo_atomic_iff (hm : Mirrors s) {info : UsrInfo} {old : CString} :
    Atomic rc s (.modifyUsrBindInfo info old) ↔ WriteSafe s (.modifyUsrBindInfo info old, rc) := by
  cases found : findByName old s.listHead with
  | none =>
      refine iff_of_true (atomic_of_refused ?_ keyFalse_ne) fun usrinfo h => ?_
      · simp [UsrCall.run, modifyUsrBindInfo, found]
      · simp [found] at h
  | some usrinfo =>
      have hname : (rebind info usrinfo).name = info.name := by
        simp only [rebind, UserRegistInfo.name, snprintf_str]
      rw [atomic_iff_of_written (writeByName old (rebind info) s).listHead s.i
        (Function.update (Function.update s.db old none) (rebind info usrinfo).name
          (some (rebind info usrinfo)))
        (by simp [UsrCall.run, modifyUsrBindInfo, found, callback, mapHandle, mapWrite, Except.map,
          writeByName]), hm.write_iff found, hname, writeByName, modifyFirst_eq_self_iff found]
      have hold : usrinfo ∈ s.listHead ∧ usrinfo.name = old :=
        ⟨mem_of_lookup found, key_of_lookup found⟩
      have hsafe : WriteSafe s (.modifyUsrBindInfo info old, rc) ↔
          if rc = keyTrue then info.name = old ∨ ∀ u ∈ s.listHead, u.name ≠ info.name
          else info.usrname = usrinfo.usrname ∧ info.countrycode = usrinfo.countrycode := by
        simp [WriteSafe, found]
      rw [hsafe]
      split
      · constructor
        · intro h
          refine or_iff_not_imp_left.2 fun hne u hu hun => hne ?_
          rw [← hun]
          exact h u hu hun
        · rintro (h | h) v hv hvn
          · exact hvn.trans h
          · exact absurd hvn (h v hv)
      · cases usrinfo
        simp [rebind]

theorem modifyPassword_atomic_iff (hm : Mirrors s) {username old new : CString} :
    Atomic rc s (.modifyPassword username old new) ↔
      WriteSafe s (.modifyPassword username old new, rc) := by
  by_cases hlen : effectiveLength < old.strlen ∨ effectiveLength < new.strlen
  · refine iff_of_true (atomic_of_refused ?_ keyFalse_ne) fun hold hnew =>
      absurd hlen (not_or.2 ⟨not_lt.2 hold, not_lt.2 hnew⟩)
    simp only [UsrCall.run, modifyPassword, if_pos hlen]
  · have hlen' := not_or.1 hlen
    rw [not_lt, not_lt] at hlen'
    cases found : findByName username s.listHead with
    | none =>
        refine iff_of_false (not_atomic_of_crash ?_) fun h => ?_
        · simp only [UsrCall.run, modifyPassword, if_neg hlen, found]
        · obtain ⟨_, hfound, _⟩ := h hlen'.1 hlen'.2
          simp [found] at hfound
    | some info =>
        by_cases hold : info.passWord.str = old
        · have hfit : new.strlen ≤ dfMaxlenPasswd := hlen'.2.trans (by decide)
          have hname : info.name = username := key_of_lookup found
          rw [atomic_write_iff (f := fun info => { info with passWord := ⟨new, hfit⟩ }) hm found
            hname (by
              simp [UsrCall.run, modifyPassword, hlen, found, hold, sprintf, hfit, Except.bind,
                callback, mapHandle, mapWrite, Except.map, writeByName]), set_passWord_eq_iff]
          constructor
          · intro h _ _
            exact ⟨info, found, fun _ => h⟩
          · intro h
            obtain ⟨info', found', h⟩ := h hlen'.1 hlen'.2
            obtain rfl := Option.some.inj (found.symm.trans found')
            exact h hold
        · refine iff_of_true (atomic_of_refused ?_ keyFalse_ne) fun _ _ =>
            ⟨info, found, fun h => absurd h hold⟩
          simp only [UsrCall.run, modifyPassword, if_neg hlen, found, if_neg hold]

theorem resetPassword_atomic_iff (hm : Mirrors s) {username countrycode password : CString} :
    Atomic rc s (.resetPassword username countrycode password) ↔
      WriteSafe s (.resetPassword username countrycode password, rc) := by
  cases found : findByName username s.listHead with
  | none =>
      refine iff_of_true (atomic_of_refused ?_ keyNotfound_ne) fun info h => ?_
      · simp [UsrCall.run, resetPassword, found]
      · simp [found] at h
  | some info =>
      have hsafe : WriteSafe s (.resetPassword username countrycode password, rc) ↔
          password.strlen ≤ dfMaxlenPasswd ∧ (rc = keyTrue ∨ info.passWord.str = password) := by
        simp [WriteSafe, found]
      rw [hsafe]
      by_cases hfit : password.strlen ≤ dfMaxlenPasswd
      · have hname : info.name = username := key_of_lookup found
        rw [atomic_write_iff (f := fun info => { info with passWord := ⟨password, hfit⟩ }) hm found
          hname (by
            simp [UsrCall.run, resetPassword, found, sprintf, hfit, Except.bind, callback,
              mapHandle, mapWrite, Except.map, writeByName]), set_passWord_eq_iff]
        exact (and_iff_right hfit).symm
      · refine iff_of_false (not_atomic_of_crash ?_) fun h => hfit h.1
        simp [UsrCall.run, resetPassword, found, sprintf, hfit, Except.bind]

theorem atomic_iff (hm : Mirrors s) : Atomic rc s c ↔ WriteSafe s (c, rc) := by
  cases c with
  | initUsrList => exact iff_of_true (atomic_of_refused rfl keyFalse_ne) trivial
  | addUsr cur info => exact addUsr_atomic_iff hm
  | delUsr cur usrInfo => exact delUsr_atomic_iff
  | modifyUsrInfo cur usrInfo => exact modifyUsrInfo_atomic_iff hm
  | modifyUsrBindInfo info old => exact modifyUsrBindInfo_atomic_iff hm
  | modifyPassword username old new => exact modifyPassword_atomic_iff hm
  | resetPassword username countrycode password => exact resetPassword_atomic_iff hm

/-! ## Histories -/

/-- A call that returns, with what its callback returns. -/
def StoreStep (s : UsrManageInner UsrMap) (c : UsrCall × ℤ) (s' : UsrManageInner UsrMap) : Prop :=
  UsrStep (mapHandle c.2) s c.1 s'

theorem Mirrors.step {l : UsrCall × ℤ} (hm : Mirrors s) (hsafe : WriteSafe s l)
    (h : StoreStep s l s') : Mirrors s' := by
  obtain ⟨r, hrun⟩ := h
  have hatomic := ((atomic_iff hm).2 hsafe).2 r s' hrun
  split at hatomic
  · exact hatomic
  · refine ⟨by rw [hatomic.1]; exact hm.names, ?_⟩
    rw [hatomic.1, hatomic.2]
    exact hm.db

/-- **Atomicity** over every history of calls that each meet `WriteSafe`: the list and the map hold
    the same records all along, and the next call, whatever its callback returns, is atomic exactly
    when it meets `WriteSafe` too. -/
theorem userStore_atomic (h₀ : Mirrors s₀) {tr : List (UsrCall × ℤ)}
    (h : Run (stepWhen WriteSafe StoreStep) s₀ tr s) :
    Mirrors s ∧ ∀ c rc, Atomic rc s c ↔ WriteSafe s (c, rc) := by
  have hm : Mirrors s := h.stateInvariant Mirrors h₀ fun _ _ _ hm hs => hm.step hs.1 hs.2
  exact ⟨hm, fun _ _ => atomic_iff hm⟩

/-! ## Concrete histories -/

/-- A list and the map of its records. -/
def mapState (users : List UsrInfo) : UsrManageInner UsrMap where
  listHead := users
  i := 0
  db := fun name => findByName name users

/-- Alice adds Carol; Bob's change of password is refused because the old one is wrong, whatever the
    database would say. -/
theorem userStore_atomic_add :
    ∃ s tr, Run (stepWhen WriteSafe StoreStep) (mapState [alice, bob]) tr s ∧ tr.length = 2 ∧
      s.listHead.length = 3 ∧ (s.db (letter 99)).isSome ∧ Mirrors s ∧
      ∀ c rc, Atomic rc s c ↔ WriteSafe s (c, rc) := by
  have h := (Run.nil : Run (stepWhen WriteSafe StoreStep) (mapState [alice, bob]) [] _)
    |>.snoc (a := (.addUsr alice carol, keyTrue)) ⟨by intro _ _; rfl, keyTrue, rfl⟩
    |>.snoc (a := (.modifyPassword (letter 98) (letter 97) (letter 120), keyFalse))
      ⟨by intro _ _; exact ⟨bob, by decide, fun hb => absurd hb (by decide)⟩,
        keyFalse, rfl⟩
  exact ⟨_, _, h, rfl, rfl, by decide, userStore_atomic ⟨by decide, rfl⟩ h⟩

/-- The database refuses Carol: `AddUsr` reports the failure, and she is in the list. -/
theorem failed_add_stays :
    ∃ r s', (UsrCall.addUsr alice carol).run (mapHandle keyFalse) (mapState [alice, bob]) =
        .ok (r, s') ∧ Mirrors (mapState [alice, bob]) ∧ r ≠ keyTrue ∧
      s'.listHead ≠ (mapState [alice, bob]).listHead ∧ (findByName carol.name s'.listHead).isSome ∧
      s'.db carol.name = none :=
  ⟨_, _, rfl, ⟨by decide, rfl⟩, by decide, by decide, by decide,
    by decide⟩

end SmartPlat.UsrManage
