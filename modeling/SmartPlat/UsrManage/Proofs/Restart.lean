import SmartPlat.Lib.SqlText
import SmartPlat.UsrManage.Operations
import SmartPlat.UsrManage.Proofs.Accounts

set_option autoImplicit false

/-! # What user operations report and what a restart brings back

Each of the five operations looks a user up and then writes to the record it found, or copies it. They
differ in whether they look at the result of the search, in the code they start from, and in whose
result they return; `AccountCall.Reliable` collects what follows. -/

namespace SmartPlat.UsrManage

open SmartPlat.Lib

variable {δ : Type*} {cb : UsrManageHandle δ} {s : UsrManageInner δ} {record : UsrInfo}

/-- The database takes the record: `setUsrInfocb` returns `KEY_TRUE`. -/
def Saves (cb : UsrInfo → δ → Except Fault (ℤ × δ)) (info : UsrInfo) (db : δ) : Prop :=
  ∃ db', cb info db = .ok (keyTrue, db')

/-- When a call is honest: passwords that reach the list are taken by the database too, a `ModifyPassword`
    is for a user who exists, and a `GetUsrInfoFromUsrName` for one who does not. -/
def AccountCall.Reliable (cb : UsrManageHandle δ) (s : UsrManageInner δ) : AccountCall → Prop
  | .modifyPassword username old new =>
      effectiveLength < old.strlen ∨ effectiveLength < new.strlen ∨
        ∃ info, findByName username s.listHead = some info ∧
          (info.passWord.str = old → ∀ setUsrInfocb, cb.setUsrInfocb = some setUsrInfocb →
            Saves setUsrInfocb { info with passWord := snprintf _ new } s.db)
  | .resetPassword username _ password =>
      ∀ info, findByName username s.listHead = some info → password.strlen ≤ dfMaxlenPasswd ∧
        ∃ setUsrInfocb, cb.setUsrInfocb = some setUsrInfocb ∧
          Saves setUsrInfocb { info with passWord := snprintf _ password } s.db
  | .getUserRegistInfo => False
  | .getUsrInfo _ => True
  | .getUsrInfoFromUsrName usrName => findByName usrName s.listHead = none

/-! ## Shared steps -/

/-- A call that has nothing to do and reports failure. -/
theorem honest_of_refused {call : AccountCall} {rc : ℤ} (hrc : rc ≠ keyTrue)
    (hrun : call.run cb s record = .ok (rc, s, record))
    (hnone : ∀ users info, ¬ Performed s.listHead record call users info) :
    Honest cb s record call :=
  ⟨rc, s, record, hrun, fun h => absurd h hrc, fun _ => ⟨hnone, rfl, rfl⟩⟩

/-- A call that does something has to succeed. -/
theorem honest_iff_of_performed {call : AccountCall} {users : List UsrInfo} {info : UsrInfo}
    (hdo : Performed s.listHead record call users info) :
    Honest cb s record call ↔ ∃ s' record', call.run cb s record = .ok (keyTrue, s', record') ∧
      Performed s.listHead record call s'.listHead record' := by
  constructor
  · rintro ⟨rc, s', record', hrun, hdone, hnot⟩
    by_cases hrc : rc = keyTrue
    · subst hrc
      exact ⟨s', record', hrun, hdone rfl⟩
    · exact absurd hdo ((hnot hrc).1 users info)
  · rintro ⟨s', record', hrun, hdone⟩
    exact ⟨keyTrue, s', record', hrun, fun _ => hdone, fun h => absurd rfl h⟩

theorem snprintf_of_str {n : ℕ} {a : CharArray n} {str : CString} (h : a.str = str) :
    snprintf n str = a := by
  rw [← h, snprintf_str]

theorem sprintf_of_short {n : ℕ} {str : CString} (h : str.strlen ≤ n) :
    sprintf n str = .ok (snprintf n str) ∧ (snprintf n str).str = str := by
  have hok : sprintf n str = .ok ⟨str, h⟩ := dif_pos h
  rw [snprintf_of_str (a := ⟨str, h⟩) rfl]
  exact ⟨hok, rfl⟩

/-- A password that is written: the code is that of the database, or the one set before without a callback
    for it. -/
theorem honest_iff_of_written {call : AccountCall} (info : UsrInfo) {username : CString}
    {passWord : CharArray dfMaxlenPasswd} (iret : ℤ)
    (hrun : call.run cb s record =
      (callback (cb.setUsrInfocb.map (· { info with passWord })) iret
        (writeByName username (fun info => { info with passWord }) s)).map fun r => (r.1, r.2, record))
    (hdo : Performed s.listHead record call
      (writeByName username (fun info => { info with passWord }) s).listHead record) :
    Honest cb s record call ↔ (cb.setUsrInfocb = none ∧ iret = keyTrue) ∨
      ∃ setUsrInfocb, cb.setUsrInfocb = some setUsrInfocb ∧
        Saves setUsrInfocb { info with passWord } s.db := by
  have hdb : (writeByName username (fun info => { info with passWord }) s).db = s.db := rfl
  rw [honest_iff_of_performed hdo, hrun]
  cases cb.setUsrInfocb with
  | none =>
      simp only [Option.map_none, callback, Except.map, Except.ok.injEq, Prod.mk.injEq, true_and,
        reduceCtorEq, false_and, exists_false, or_false]
      constructor
      · rintro ⟨s', record', ⟨hiret, -⟩, -⟩
        exact hiret
      · intro hiret
        exact ⟨_, _, ⟨hiret, rfl, rfl⟩, hdo⟩
  | some f =>
      simp only [Option.map_some, callback, hdb, Option.some.injEq, exists_eq_left', reduceCtorEq,
        false_and, false_or, Saves]
      cases f { info with passWord } s.db with
      | error e => simp [Except.map]
      | ok r =>
          simp only [Except.map, Except.ok.injEq, Prod.ext_iff]
          constructor
          · rintro ⟨s', record', ⟨hrc, -⟩, -⟩
            exact ⟨r.2, hrc, rfl⟩
          · rintro ⟨db', hrc, -⟩
            exact ⟨_, _, ⟨hrc, rfl, rfl⟩, hdo⟩

/-! ## One lemma for each operation -/

theorem modifyPassword_honest_iff {username old new : CString} :
    Honest cb s record (.modifyPassword username old new) ↔
      (AccountCall.modifyPassword username old new).Reliable cb s := by
  by_cases hlong : effectiveLength < old.strlen ∨ effectiveLength < new.strlen
  · refine iff_of_true ?_ (hlong.elim .inl fun h => .inr (.inl h))
    refine honest_of_refused keyFalse_ne ?_ ?_
    · simp only [AccountCall.run, modifyPassword, if_pos hlong, Except.map]
    · intro users info hdo
      cases hdo with
      | modifyPassword short _ _ _ => omega
  · rw [AccountCall.Reliable, ← or_assoc, or_iff_right hlong]
    cases hfound : findByName username s.listHead with
    | none =>
        -- nothing checks the result of the search
        refine iff_of_false ?_ (by simp)
        rintro ⟨rc, s', record', hrun, -⟩
        simp [AccountCall.run, modifyPassword, hlong, hfound, Except.map] at hrun
    | some info =>
        simp only [Option.some.injEq, exists_eq_left']
        by_cases hold : info.passWord.str = old
        · have hshort := hlong
          rw [not_or, not_lt, not_lt] at hshort
          have hmax : effectiveLength ≤ dfMaxlenPasswd := by decide
          obtain ⟨hok, hstr⟩ := sprintf_of_short (hshort.2.trans hmax)
          rw [honest_iff_of_written info keyTrue ?_
            (.modifyPassword hshort hfound hold hstr)]
          · -- without a callback the code is the `KEY_TRUE` of the comparison
            cases cb.setUsrInfocb <;> simp [hold]
          · simp only [AccountCall.run, modifyPassword, if_neg hlong, hfound, if_pos hold, hok,
              Except.bind]
        · refine iff_of_true ?_ fun h => absurd h hold
          refine honest_of_refused keyFalse_ne ?_ ?_
          · simp only [AccountCall.run, modifyPassword, if_neg hlong, hfound, if_neg hold, Except.map]
          · intro users record' hdo
            cases hdo with
            | modifyPassword _ found oldPassword _ =>
                obtain rfl := Option.some.inj (hfound.symm.trans found)
                exact hold oldPassword

theorem resetPassword_honest_iff {username countrycode password : CString} :
    Honest cb s record (.resetPassword username countrycode password) ↔
      (AccountCall.resetPassword username countrycode password).Reliable cb s := by
  rw [AccountCall.Reliable]
  cases hfound : findByName username s.listHead with
  | none =>
      refine iff_of_true (honest_of_refused keyNotfound_ne ?_ ?_) (by simp)
      · simp only [AccountCall.run, resetPassword, hfound, Except.map]
      · intro users info hdo
        cases hdo with
        | resetPassword found _ => cases hfound.symm.trans found
  | some info =>
      simp only [Option.some.injEq, forall_eq']
      by_cases hfits : password.strlen ≤ dfMaxlenPasswd
      · obtain ⟨hok, hstr⟩ := sprintf_of_short hfits
        rw [honest_iff_of_written info keyFalse ?_ (.resetPassword hfound hstr)]
        · simp [hfits, keyFalse_ne]
        · simp only [AccountCall.run, resetPassword, hfound, hok, Except.bind]
      · refine iff_of_false ?_ fun h => hfits h.1
        rintro ⟨rc, s', record', hrun, -⟩
        simp [AccountCall.run, resetPassword, hfound, sprintf, hfits, Except.bind, Except.map] at hrun

theorem getUserRegistInfo_dishonest : ¬ Honest cb s record .getUserRegistInfo := by
  cases hfound : findByName record.name s.listHead with
  | none =>
      rintro ⟨rc, s', record', hrun, -⟩
      simp [AccountCall.run, getUserRegistInfo, hfound, Except.map] at hrun
  | some info =>
      rw [honest_iff_of_performed (.getUserRegistInfo hfound)]
      rintro ⟨s', record', hrun, -⟩
      simp only [AccountCall.run, getUserRegistInfo, hfound, Except.map, Except.ok.injEq,
        Prod.mk.injEq] at hrun
      exact keyFalse_ne hrun.1

theorem getUsrInfo_honest (cur : UsrInfo) : Honest cb s record (.getUsrInfo cur) := by
  by_cases hguard : cur.name ≠ record.name ∨ cur.userLevel < record.userLevel
  · refine honest_of_refused keyFalse_ne ?_ ?_
    · simp only [AccountCall.run, getUsrInfo, if_pos hguard]
    · intro users info hdo
      cases hdo with
      | getUsrInfo own level _ => exact hguard.elim (fun h => h own) (fun h => not_lt.2 level h)
  · have hguard' := hguard
    rw [not_or, not_not, not_lt] at hguard'
    cases hfound : findByName record.name s.listHead with
    | none =>
        refine honest_of_refused keyFalse_ne ?_ ?_
        · simp only [AccountCall.run, getUsrInfo, if_neg hguard, hfound]
        · intro users info hdo
          cases hdo with
          | getUsrInfo _ _ found => cases hfound.symm.trans found
    | some info =>
        have hdo := Performed.getUsrInfo hguard'.1 hguard'.2 hfound
        refine (honest_iff_of_performed hdo).2 ⟨s, info, ?_, hdo⟩
        simp only [AccountCall.run, getUsrInfo, if_neg hguard, hfound]

theorem getUsrInfoFromUsrName_honest_iff {usrName : CString} :
    Honest cb s record (.getUsrInfoFromUsrName usrName) ↔
      (AccountCall.getUsrInfoFromUsrName usrName).Reliable cb s := by
  rw [AccountCall.Reliable]
  cases hfound : findByName usrName s.listHead with
  | none =>
      refine iff_of_true (honest_of_refused keyFalse_ne ?_ ?_) rfl
      · simp only [AccountCall.run, getUsrInfoFromUsrName, hfound]
      · intro users info hdo
        cases hdo with
        | getUsrInfoFromUsrName found => cases hfound.symm.trans found
  | some info =>
      refine iff_of_false ?_ (by simp)
      rw [honest_iff_of_performed (.getUsrInfoFromUsrName hfound)]
      rintro ⟨s', record', hrun, -⟩
      simp only [AccountCall.run, getUsrInfoFromUsrName, hfound, Except.ok.injEq, Prod.mk.injEq] at hrun
      exact keyFalse_ne hrun.1

/-- **What is reported is what was done** exactly for the reliable calls: for every list of users, every
    database and every call, present or absent. -/
theorem account_call_honest_iff (cb : UsrManageHandle δ) (s : UsrManageInner δ) (record : UsrInfo)
    (call : AccountCall) : Honest cb s record call ↔ call.Reliable cb s := by
  cases call with
  | modifyPassword username old new => exact modifyPassword_honest_iff
  | resetPassword username countrycode password => exact resetPassword_honest_iff
  | getUserRegistInfo => exact iff_of_false getUserRegistInfo_dishonest id
  | getUsrInfo cur => exact iff_of_true (getUsrInfo_honest cur) trivial
  | getUsrInfoFromUsrName usrName => exact getUsrInfoFromUsrName_honest_iff

/-- Bob is looked up by name: his record is copied and failure reported. And a change of Carol's password,
    who is not in the list, goes through a null pointer. -/
theorem found_user_reported_missing :
    (AccountCall.getUsrInfoFromUsrName (letter 98)).run defaultHandle (sampleState [alice, bob]) alice =
        .ok (keyFalse, sampleState [alice, bob], bob) ∧
      ¬ Honest defaultHandle (sampleState [alice, bob]) alice (.getUsrInfoFromUsrName (letter 98)) ∧
      (AccountCall.modifyPassword (letter 99) (letter 99) (letter 120)).run defaultHandle
        (sampleState [alice, bob]) alice = .error .badAccess := by
  refine ⟨rfl, ?_, rfl⟩
  rw [getUsrInfoFromUsrName_honest_iff]
  have hbob : findByName (letter 98) [alice, bob] = some bob := rfl
  exact fun h => nomatch hbob.symm.trans h

/-! ## What a restart brings back

In memory a record is changed as a whole; each statement writes a few columns of the row it finds by
another column, and `InitUsrList` skips rows without a level. `RestartSafe` says when a call writes
the same to both, and after a history of such calls the table holds what the list does. -/

/-! ## Condition -/

/-- The strings survive being pasted into a statement. -/
def AllPlain (strings : List CString) : Prop := ∀ s ∈ strings, Plain s.bytes

instance (strings : List CString) : Decidable (AllPlain strings) :=
  inferInstanceAs (Decidable (∀ s ∈ strings, Plain s.bytes))

/-- The calls whose statement succeeds and says what the list says: a new user has a name, which for the
    table no row has, and a level; an edited record keeps its country code and id; a password is set for a
    user with a name; the row of a renamed user is the only one with their id, and no other has the
    new name. No `DelUsr` is accepted, which would end the process. -/
def RestartSafe (c : Collation CString) (s : UsrManageInner UsrDatabase) : UsrCall → Prop
  | .initUsrList => False
  | .addUsr cur info => checkUser cur info s = keyTrue →
      info.name.strlen ≠ 0 ∧ info.userLevel ≠ .invalid ∧
      (∀ row ∈ s.db.rows, usrNameKey c row ≠ usrNameKey c info) ∧
      AllPlain [info.name, info.passWord.str, info.countrycode.str, info.customname.str]
  | .delUsr cur usrInfo => ∀ info, findByName usrInfo.name s.listHead = some info →
      cur.userLevel < info.userLevel
  | .modifyUsrInfo cur usrInfo => checkUsrInfoValidity usrInfo ≠ keyFalse →
      cur.name = usrInfo.name → usrInfo.userLevel ≤ cur.userLevel →
      ∀ info, findByName usrInfo.name s.listHead = some info →
        usrInfo.name.strlen ≠ 0 ∧ usrInfo.countrycode = info.countrycode ∧
        usrInfo.usrID = info.usrID ∧
        AllPlain [info.passWord.str, usrInfo.customname.str, usrInfo.name]
  | .modifyUsrBindInfo info old => ∀ usrinfo, findByName old s.listHead = some usrinfo →
      (∀ row ∈ s.db.rows, row.usrID = usrinfo.usrID → row.name = old) ∧
      (∀ row ∈ s.db.rows, usrNameKey c row = usrNameKey c info → row.name = old) ∧
      AllPlain [info.name, info.countrycode.str]
  | .modifyPassword username old new => ∀ info, findByName username s.listHead = some info →
      info.passWord.str = old →
      username.strlen ≠ 0 ∧ AllPlain [new, info.customname.str, username]
  | .resetPassword username _ password => ∀ info, findByName username s.listHead = some info →
      username.strlen ≠ 0 ∧ AllPlain [password, info.customname.str, username]

/-! ## The rows that are loaded -/

/-- The rows `InitUsrList` takes. -/
def HasLevel (row : UsrInfo) : Bool := row.userLevel ≠ .invalid

theorem loadedUsrs_eq (rows : List UsrInfo) : loadedUsrs rows = rows.filter HasLevel := by
  have hcopy : ∀ a : CharArray dfMaxlenPasswd, snprintf dfMaxlenUsrname a.str = a := snprintf_str
  have hlevel : ∀ level : UsrLevel, (¬ level ≤ .invalid) ↔ level ≠ .invalid := by
    intro level
    cases level <;> decide
  simp only [loadedUsrs, snprintf_str, hcopy, hlevel, List.map_id']
  rfl

/-- The list holds the users of the table that have a level. -/
structure Synced (c : Collation CString) (s : UsrManageInner UsrDatabase) : Prop where
  connected : s.db.connected = true
  keyed : Keyed (usrNameKey c) s.db.rows
  users : s.listHead.Perm (s.db.rows.filter HasLevel)

variable {c : Collation CString} {s s' s₀ : UsrManageInner UsrDatabase} {rc iret : ℤ} {i : UInt32}

theorem usrNameKey_congr {u v : UsrInfo} (h : u.name = v.name) : usrNameKey c u = usrNameKey c v :=
  congrArg c.weight h

/-- Names that the table tells apart are different. -/
theorem nodup_names {users : List UsrInfo} (h : (users.map (usrNameKey c)).Nodup) :
    (users.map UserRegistInfo.name).Nodup := by
  have hmap : users.map (usrNameKey c) = (users.map UserRegistInfo.name).map c.weight := by
    rw [List.map_map]
    rfl
  rw [hmap] at h
  exact h.of_map _

theorem Synced.keys (hs : Synced c s) : (s.listHead.map (usrNameKey c)).Nodup :=
  (hs.users.map _).nodup_iff.2 (hs.keyed.sublist (List.filter_sublist.map _))

theorem Synced.names (hs : Synced c s) : (s.listHead.map UserRegistInfo.name).Nodup :=
  nodup_names hs.keys

theorem Synced.mem_rows (hs : Synced c s) {u : UsrInfo} (hu : u ∈ s.listHead) : u ∈ s.db.rows :=
  (List.mem_filter.1 (hs.users.mem_iff.1 hu)).1

/-! ## Writes -/

/-- The list after a write of the record found, and the table after an update of its row. -/
theorem Synced.perm_write (hs : Synced c s) {name : CString} {f g : UsrInfo → UsrInfo} {u : UsrInfo}
    (found : findByName name s.listHead = some u) (hfg : f u = g u)
    (hlevel : ∀ row, (g row).userLevel = row.userLevel) :
    (writeByName name f s).listHead.Perm
      ((updateWhere (usrNameKey c) (usrNameKey c u) g s.db.rows).filter HasLevel) := by
  have hu : u.name = name := key_of_lookup found
  -- in the list the row the statement finds is the record that was found
  have hkey : ∀ r ∈ s.listHead, r.name = name ↔ usrNameKey c r = usrNameKey c u := by
    refine fun r hr => ⟨fun h => usrNameKey_congr (h.trans hu.symm), fun h => ?_⟩
    rw [List.inj_on_of_nodup_map hs.keys hr (mem_of_lookup found) h, hu]
  have hsame : updateWhere UserRegistInfo.name name f s.listHead =
      updateWhere UserRegistInfo.name name g s.listHead := by
    refine updateWhere_congr fun r hr hname => ?_
    have hr : r = u := List.inj_on_of_nodup_map hs.names hr (mem_of_lookup found)
      (hname.trans hu.symm)
    rw [hr, hfg]
  have hfilter : ∀ row, HasLevel (g row) = HasLevel row := fun row => by
    rw [HasLevel, hlevel, HasLevel]
  rw [writeByName, modifyFirst_eq_updateWhere hs.names, hsame, updateWhere_congr_key hkey,
    filter_updateWhere hfilter]
  exact hs.users.map _

/-- `MySqlCtrlSetUsrInfo` after a write that changes the password or the custom name. -/
theorem Synced.set (hs : Synced c s) {name : CString} {f : UsrInfo → UsrInfo} {u : UsrInfo}
    (found : findByName name s.listHead = some u) (hname : name.strlen ≠ 0)
    (hf : f u = { u with passWord := (f u).passWord, customname := (f u).customname })
    (hcb : callback ((mysqlHandle c).setUsrInfocb.map (· (f u))) iret
      ⟨(writeByName name f s).listHead, i, s.db⟩ = .ok (rc, s')) : Synced c s' := by
  have hfname : (f u).name = u.name := (congrArg UserRegistInfo.name hf).trans rfl
  have hne : (f u).name.strlen ≠ 0 := by
    rw [hfname, key_of_lookup found]
    exact hname
  simp only [callback, mysqlHandle, Option.map_some, mySqlCtrlSetUsrInfo, if_neg hne,
    usrNameKey_congr hfname, onServer, hs.connected, if_true, Except.map, Except.ok.injEq,
    Prod.mk.injEq] at hcb
  obtain ⟨-, rfl⟩ := hcb
  exact ⟨rfl, hs.keyed.update fun _ => rfl, hs.perm_write found hf fun _ => rfl⟩

theorem Synced.add (hs : Synced c s) (info : UsrInfo) (hname : info.name.strlen ≠ 0)
    (hlevel : info.userLevel ≠ .invalid)
    (hnew : ∀ row ∈ s.db.rows, usrNameKey c row ≠ usrNameKey c info)
    (hcb : callback ((mysqlHandle c).addUsrcb.map (· info)) iret
      ⟨s.listHead ++ [info], i, s.db⟩ = .ok (rc, s')) : Synced c s' := by
  have hany : ¬ s.db.rows.any fun row => usrNameKey c row = usrNameKey c info ∧
      c.weight row.countrycode.str = c.weight info.countrycode.str := by
    simp only [List.any_eq_true, decide_eq_true_eq, not_exists, not_and]
    exact fun row hrow h => absurd h (hnew row hrow)
  simp only [callback, mysqlHandle, Option.map_some, mySqlCtrlAddUsrInfo, if_neg hname, if_neg hany,
    insertRow_of_fresh hnew, onServer, hs.connected, if_true, Except.map, Except.ok.injEq,
    Prod.mk.injEq] at hcb
  obtain ⟨-, rfl⟩ := hcb
  refine ⟨rfl, hs.keyed.insert (insertRow_of_fresh hnew), ?_⟩
  have hlast : [info].filter HasLevel = [info] := List.filter_cons_of_pos (by simpa [HasLevel])
  rw [List.filter_append, hlast]
  exact hs.users.append_right _

theorem Synced.rename (hs : Synced c s) {info usrinfo : UsrInfo} {old : CString}
    (found : findByName old s.listHead = some usrinfo)
    (hid : ∀ row ∈ s.db.rows, row.usrID = usrinfo.usrID → row.name = old)
    (hfree : ∀ row ∈ s.db.rows, usrNameKey c row = usrNameKey c info → row.name = old)
    (hcb : callback ((mysqlHandle c).modifyUsrBindInfocb.map (· (rebind info usrinfo) old)) iret
      ⟨(writeByName old (rebind info) s).listHead, i, s.db⟩ = .ok (rc, s')) : Synced c s' := by
  have hmem := hs.mem_rows (mem_of_lookup found)
  have hname : usrinfo.name = old := key_of_lookup found
  have hrebind : (fun row : UsrInfo => { row with
      usrname := (rebind info usrinfo).usrname
      countrycode := (rebind info usrinfo).countrycode }) = rebind info := by
    funext row
    simp only [rebind]
  -- the row with the id is the one with the name
  have hrow : ∀ row ∈ s.db.rows,
      row.usrID = usrinfo.usrID ↔ usrNameKey c row = usrNameKey c usrinfo := by
    refine fun row hr => ⟨fun h => usrNameKey_congr ((hid row hr h).trans hname.symm), fun h => ?_⟩
    rw [hs.keyed.eq_of_mem hr hmem h]
  have hupdate : updateWhere UserRegistInfo.usrID usrinfo.usrID (rebind info) s.db.rows =
      updateWhere (usrNameKey c) (usrNameKey c usrinfo) (rebind info) s.db.rows :=
    updateWhere_congr_key hrow
  have hkeyed : ((updateWhere (usrNameKey c) (usrNameKey c usrinfo) (rebind info) s.db.rows).map
      (usrNameKey c)).Nodup := by
    rw [← modifyFirst_eq_updateWhere hs.keyed]
    refine nodup_map_modifyFirst hs.keyed (lookup_of_mem hs.keyed hmem) fun row hr hn => ?_
    have hinfo : usrNameKey c (rebind info usrinfo) = usrNameKey c info := usrNameKey_congr (by
      simp only [rebind, UserRegistInfo.name, snprintf_str])
    exact usrNameKey_congr ((hfree row hr (hn.trans hinfo)).trans hname.symm)
  have hdb : mySqlCtrlModifyUsrBindInfo c (rebind info usrinfo) old s.db = .ok (keyTrue,
      { s.db with rows :=
        updateWhere (usrNameKey c) (usrNameKey c usrinfo) (rebind info) s.db.rows }) := by
    simp only [mySqlCtrlModifyUsrBindInfo, hrebind]
    rw [show (rebind info usrinfo).usrID = usrinfo.usrID from rfl, hupdate, if_pos hkeyed, onServer,
      if_pos hs.connected]
  simp only [callback, mysqlHandle, Option.map_some, hdb, Except.map, Except.ok.injEq,
    Prod.mk.injEq] at hcb
  obtain ⟨-, rfl⟩ := hcb
  exact ⟨hs.connected, hkeyed, hs.perm_write found rfl fun _ => rfl⟩

/-! ## Histories -/

/-- **Step lemma.** -/
theorem Synced.step {call : UsrCall} (hs : Synced c s) (hsafe : RestartSafe c s call)
    (h : UsrStep (mysqlHandle c) s call s') : Synced c s' := by
  obtain ⟨rc, hrun⟩ := h
  have hcall : call ≠ .initUsrList := by
    rintro rfl
    exact hsafe
  rcases UsrCall.run_writes hcall hrun with ⟨-, rfl⟩ | ⟨cb, users, i, iret, hwrite, hcb⟩
  · exact hs
  · cases hwrite with
    | @addUsr _ info usrID check newID =>
        obtain ⟨hname, hlevel, hnew, -⟩ := hsafe check
        exact hs.add { info with usrID } hname hlevel hnew hcb
    | delUsr found level => exact absurd (hsafe _ found) (not_lt.2 level)
    | @modifyUsrInfo _ usrInfo info valid own level found =>
        obtain ⟨hname, hcountry, hid, -⟩ := hsafe valid own level info found
        refine hs.set found hname ?_ hcb
        have husrname : usrInfo.usrname = info.usrname :=
          CharArray.ext_str (key_of_lookup found).symm
        cases info
        simp only [keepLevelAndPassword, hcountry, hid, husrname]
    | modifyUsrBindInfo found =>
        obtain ⟨hid, hfree, -⟩ := hsafe _ found
        exact hs.rename found hid hfree hcb
    | modifyPassword found oldPassword newPassword =>
        exact hs.set found (hsafe _ found oldPassword).1 rfl hcb
    | resetPassword found newPassword => exact hs.set found (hsafe _ found).1 rfl hcb

end SmartPlat.UsrManage
