import SmartPlat.Lib.Table
import SmartPlat.Lib.Transition
import SmartPlat.UsrManage.Basic

set_option autoImplicit false

/-! # User operations and the user table (`usrmanage.c`, `mysqlctrl.c`)

The operations on the list of users. A search takes the first user with the name; the database is
written after the list, and a failed write does not undo the change to the list. `NULL` arguments,
which are refused at once, are left out. -/

namespace SmartPlat.UsrManage

open SmartPlat.Lib

variable {δ : Type*}

/-- `HandleManageGetHandleByStr` on `usrname`: the first user of the name. -/
def findByName (name : CString) (users : List UsrInfo) : Option UsrInfo :=
  lookup UserRegistInfo.name name users

/-- Write to the first user of the name. -/
def writeByName (name : CString) (f : UsrInfo → UsrInfo) (s : UsrManageInner δ) :
    UsrManageInner δ :=
  { s with listHead := modifyFirst UserRegistInfo.name name f s.listHead }

/-! ## Checks -/

/-- `CheckUsrInfoValidity`. -/
def checkUsrInfoValidity (info : UsrInfo) : ℤ :=
  if info.usrname.str.strlen > dfMaxlenUsrname + 1 ∨ info.passWord.str.strlen > 16
      ∨ UsrLevel.invalid > info.userLevel then
    keyFalse
  else keyTrue

/-- `Authentication`: the level of the first user of the name, if the password is theirs. -/
def authentication (usrname password : CString) (users : List UsrInfo) : UsrLevel :=
  match findByName usrname users with
  | none => .invalid
  | some info => if info.passWord.str = password then info.userLevel else .invalid

/-- `CheckUser`. -/
def checkUser (curUsrInfo info : UsrInfo) (s : UsrManageInner δ) : ℤ :=
  if checkUsrInfoValidity info = keyFalse then keyFalse
  else if curUsrInfo.userLevel < info.userLevel then keyFalse
  else if (findByName info.name s.listHead).isSome then keyUserrepeat
  else keyTrue

/-! ## Passwords -/

/-- `ModifyPassword`. A name nobody has is a null pointer here. -/
def modifyPassword (cb : UsrManageHandle δ) (username oldPassword newPassword : CString)
    (s : UsrManageInner δ) : UsrResult δ :=
  if effectiveLength < oldPassword.strlen ∨ effectiveLength < newPassword.strlen then
    .ok (keyFalse, s)
  else
    match findByName username s.listHead with
    | none => .error .badAccess
    | some info =>
        if info.passWord.str = oldPassword then
          (sprintf dfMaxlenPasswd newPassword).bind fun passWord =>
            callback (cb.setUsrInfocb.map (· { info with passWord })) keyTrue
              (writeByName username (fun info => { info with passWord }) s)
        else .ok (keyFalse, s)

/-- `ResetPassword`. `countrycode` is not looked at. -/
def resetPassword (cb : UsrManageHandle δ) (username _countrycode password : CString)
    (s : UsrManageInner δ) : UsrResult δ :=
  match findByName username s.listHead with
  | none => .ok (keyNotfound, s)
  | some info =>
      (sprintf dfMaxlenPasswd password).bind fun passWord =>
        callback (cb.setUsrInfocb.map (· { info with passWord })) keyFalse
          (writeByName username (fun info => { info with passWord }) s)

/-! ## Records -/

/-- The record `ModifyUsrInfo` leaves: the one it is given, with the stored level and password. -/
def keepLevelAndPassword (usrInfo info : UsrInfo) : UsrInfo :=
  { usrInfo with
    userLevel := info.userLevel
    passWord := snprintf dfMaxlenPasswd (snprintf dfMaxlenPasswd info.passWord.str).str }

/-- `ModifyUsrInfo`. The caller's own name and level are the ones compared. -/
def modifyUsrInfo (cb : UsrManageHandle δ) (curUsrInfo usrInfo : UsrInfo) (s : UsrManageInner δ) :
    UsrResult δ :=
  if checkUsrInfoValidity usrInfo = keyFalse then .ok (keyFalse, s)
  else if curUsrInfo.name ≠ usrInfo.name ∨ curUsrInfo.userLevel < usrInfo.userLevel then
    .ok (keyFalse, s)
  else
    match findByName usrInfo.name s.listHead with
    | none => .ok (keyFalse, s)
    | some info =>
        callback (cb.setUsrInfocb.map (· (keepLevelAndPassword usrInfo info))) keyFalse
          (writeByName usrInfo.name (keepLevelAndPassword usrInfo) s)

/-- The record `ModifyUsrBindInfo` leaves. -/
def rebind (info usrinfo : UsrInfo) : UsrInfo :=
  { usrinfo with
    usrname := snprintf dfMaxlenUsrname info.usrname.str
    countrycode := snprintf dfMaxlenPasswd info.countrycode.str }

/-- `ModifyUsrBindInfo`: the user named `oldusrname` takes the name and country code of `info`; the
    caller's record is overwritten with theirs, which is the one the callback gets. -/
def modifyUsrBindInfo (cb : UsrManageHandle δ) (info : UsrInfo) (oldusrname : CString)
    (s : UsrManageInner δ) : UsrResult δ :=
  match findByName oldusrname s.listHead with
  | none => .ok (keyFalse, s)
  | some usrinfo =>
      callback (cb.modifyUsrBindInfocb.map (· (rebind info usrinfo) oldusrname)) keyFalse
        (writeByName oldusrname (rebind info) s)

/-! ## Adding and deleting -/

/-- The loop of `CreateUsrid`: the first free id from `1000000 + i` on, and the static `i` then. -/
def createUsridLoop (users : List UsrInfo) : ℕ → UInt32 → Except Fault (UInt32 × UInt32)
  | 0, _ => .error .timeout
  | fuel + 1, i =>
      match lookup UserRegistInfo.usrID (1000000 + i) users with
      | none => .ok (1000000 + i, i)
      | some _ => createUsridLoop users fuel (i + 1)

/-- `CreateUsrid`. One more step than there are users is enough (`createUsrid_returns`). -/
def createUsrid (s : UsrManageInner δ) : Except Fault (UInt32 × UInt32) :=
  createUsridLoop s.listHead (s.listHead.length + 1) s.i

/-- `AddUsr`. -/
def addUsr (cb : UsrManageHandle δ) (curUsrInfo info : UsrInfo) (s : UsrManageInner δ) :
    UsrResult δ :=
  if checkUsrInfoValidity info = keyFalse then .ok (keyFalse, s)
  else if checkUser curUsrInfo info s ≠ keyTrue then .ok (keyFalse, s)
  else
    (createUsrid s).bind fun r =>
      callback (cb.addUsrcb.map (· { info with usrID := r.1 })) keyTrue
        { s with listHead := s.listHead ++ [{ info with usrID := r.1 }], i := r.2 }

/-- `DelUsr`. `MyFree(info)` clears the pointer that the callback is then given. -/
def delUsr (cb : UsrManageHandle δ) (curUsrInfo usrInfo : UsrInfo) (s : UsrManageInner δ) :
    UsrResult δ :=
  match findByName usrInfo.name s.listHead with
  | none => .ok (keyFalse, s)
  | some info =>
      if curUsrInfo.userLevel < info.userLevel then .ok (keyFalse, s)
      else
        callback (cb.delUsrcb.map (· none)) keyTrue
          { s with listHead := eraseFirst UserRegistInfo.name usrInfo.name s.listHead }

/-! ## Loading -/

/-- The users `InitUsrList` makes of the rows it reads: rows without a level are skipped. -/
def loadedUsrs (rows : List UsrInfo) : List UsrInfo :=
  (rows.filter fun row => ¬ row.userLevel ≤ .invalid).map fun row =>
    { userLevel := row.userLevel
      usrname := snprintf dfMaxlenUsrname row.usrname.str
      passWord := snprintf dfMaxlenUsrname row.passWord.str
      countrycode := snprintf dfMaxlenUsrname row.countrycode.str
      usrID := row.usrID
      customname := snprintf dfMaxlenUsrname row.customname.str }

/-- `InitUsrList`. The rows go into an array of as many records as were counted before: more rows
    overrun it, fewer leave records unset that are read all the same. -/
def initUsrList (cb : UsrManageHandle δ) (s : UsrManageInner δ) : UsrResult δ :=
  match cb.getUsrInfoListcb, cb.getUsrInfoListNumcb with
  | some getUsrInfoListcb, some getUsrInfoListNumcb =>
      if getUsrInfoListNumcb s.db ≤ 0 then .ok (keyFalse, s)
      else
        (getUsrInfoListcb s.db).bind fun r =>
          if r.1 = keyFalse then .ok (keyFalse, s)
          else if (r.2.length : ℤ) ≠ getUsrInfoListNumcb s.db then .error .badAccess
          else .ok (keyTrue, { s with listHead := s.listHead ++ loadedUsrs r.2 })
  | _, _ => .ok (keyFalse, s)

/-! ## Calls -/

/-- A call of one of the operations that change the list. -/
inductive UsrCall where
  | initUsrList
  | addUsr (curUsrInfo info : UsrInfo)
  | delUsr (curUsrInfo usrInfo : UsrInfo)
  | modifyUsrInfo (curUsrInfo usrInfo : UsrInfo)
  | modifyUsrBindInfo (info : UsrInfo) (oldusrname : CString)
  | modifyPassword (username oldPassword newPassword : CString)
  | resetPassword (username countrycode password : CString)

def UsrCall.run (cb : UsrManageHandle δ) : UsrCall → UsrManageInner δ → UsrResult δ
  | .initUsrList => UsrManage.initUsrList cb
  | .addUsr cur info => UsrManage.addUsr cb cur info
  | .delUsr cur usrInfo => UsrManage.delUsr cb cur usrInfo
  | .modifyUsrInfo cur usrInfo => UsrManage.modifyUsrInfo cb cur usrInfo
  | .modifyUsrBindInfo info old => UsrManage.modifyUsrBindInfo cb info old
  | .modifyPassword username old new => UsrManage.modifyPassword cb username old new
  | .resetPassword username countrycode password =>
      UsrManage.resetPassword cb username countrycode password

/-- One call that returns, with any code. -/
def UsrStep (cb : UsrManageHandle δ) (s : UsrManageInner δ) (c : UsrCall) (s' : UsrManageInner δ) :
    Prop :=
  ∃ rc, c.run cb s = .ok (rc, s')

/-- One call that returns success. -/
def UsrSuccess (cb : UsrManageHandle δ) (s : UsrManageInner δ) (c : UsrCall)
    (s' : UsrManageInner δ) : Prop :=
  c.run cb s = .ok (keyTrue, s')

/-! ## Reading users (`usrmanage.c`)

The three operations that copy the record of a user into one of the caller's, and with them the calls
that answer for one user. A record is copied whole. -/

/-! ### Copying a record out -/

/-- `GetUserRegistInfo`: the result is not checked, and `iret` stays as it is set at first. -/
def getUserRegistInfo (info : UserRegistInfo) (users : List UsrInfo) :
    Except Fault (ℤ × UserRegistInfo) :=
  match findByName info.name users with
  | none => .error .badAccess
  | some usrinfo => .ok (keyFalse, usrinfo)

/-- `GetUsrInfo`: the code, and what is in `*UsrInfo` then. -/
def getUsrInfo (curUsrInfo usrInfo : UsrInfo) (users : List UsrInfo) : ℤ × UsrInfo :=
  if curUsrInfo.name ≠ usrInfo.name ∨ curUsrInfo.userLevel < usrInfo.userLevel then
    (keyFalse, usrInfo)
  else
    match findByName usrInfo.name users with
    | none => (keyFalse, usrInfo)
    | some info => (keyTrue, info)

/-- `GetUsrInfoFromUsrName`, where `iret` stays `KEY_FALSE`. -/
def getUsrInfoFromUsrName (usrName : CString) (usrInfo : UsrInfo) (users : List UsrInfo) :
    ℤ × UsrInfo :=
  match findByName usrName users with
  | none => (keyFalse, usrInfo)
  | some info => (keyFalse, info)

/-! ### Calls for one user -/

inductive AccountCall where
  | modifyPassword (username oldPassword newPassword : CString)
  | resetPassword (username countrycode password : CString)
  | getUserRegistInfo
  | getUsrInfo (curUsrInfo : UsrInfo)
  | getUsrInfoFromUsrName (usrName : CString)

/-- How a call ends: the code, the state, and the caller's record. -/
abbrev AccountResult (δ : Type*) := Except Fault (ℤ × UsrManageInner δ × UsrInfo)

/-- A call with the record the caller passes. The password calls take none and leave it alone. -/
def AccountCall.run (cb : UsrManageHandle δ) (s : UsrManageInner δ) (record : UsrInfo) :
    AccountCall → AccountResult δ
  | .modifyPassword username old new =>
      (UsrManage.modifyPassword cb username old new s).map fun r => (r.1, r.2, record)
  | .resetPassword username countrycode password =>
      (UsrManage.resetPassword cb username countrycode password s).map fun r => (r.1, r.2, record)
  | .getUserRegistInfo =>
      (UsrManage.getUserRegistInfo record s.listHead).map fun r => (r.1, s, r.2)
  | .getUsrInfo cur =>
      .ok ((UsrManage.getUsrInfo cur record s.listHead).1, s,
        (UsrManage.getUsrInfo cur record s.listHead).2)
  | .getUsrInfoFromUsrName usrName =>
      .ok ((UsrManage.getUsrInfoFromUsrName usrName record s.listHead).1, s,
        (UsrManage.getUsrInfoFromUsrName usrName record s.listHead).2)

/-! ### What the calls are for -/

/-- The list and the record that a call is to leave; a call for a user who is not there, or that its
    caller may not make, has nothing to do. -/
inductive Performed (users : List UsrInfo) (record : UsrInfo) :
    AccountCall → List UsrInfo → UsrInfo → Prop
  | modifyPassword {username old new : CString} {info : UsrInfo} {passWord : CharArray dfMaxlenPasswd}
      (short : old.strlen ≤ effectiveLength ∧ new.strlen ≤ effectiveLength)
      (found : findByName username users = some info) (oldPassword : info.passWord.str = old)
      (newPassword : passWord.str = new) :
      Performed users record (.modifyPassword username old new)
        (modifyFirst UserRegistInfo.name username (fun info => { info with passWord }) users) record
  | resetPassword {username countrycode password : CString} {info : UsrInfo}
      {passWord : CharArray dfMaxlenPasswd} (found : findByName username users = some info)
      (newPassword : passWord.str = password) :
      Performed users record (.resetPassword username countrycode password)
        (modifyFirst UserRegistInfo.name username (fun info => { info with passWord }) users) record
  | getUserRegistInfo {info : UsrInfo} (found : findByName record.name users = some info) :
      Performed users record .getUserRegistInfo users info
  | getUsrInfo {cur info : UsrInfo} (own : cur.name = record.name)
      (level : record.userLevel ≤ cur.userLevel) (found : findByName record.name users = some info) :
      Performed users record (.getUsrInfo cur) users info
  | getUsrInfoFromUsrName {usrName : CString} {info : UsrInfo}
      (found : findByName usrName users = some info) :
      Performed users record (.getUsrInfoFromUsrName usrName) users info

/-- **Total and honest.** The call returns; with `KEY_TRUE` it has done what it is for, and with any other
    code there was nothing to do and nothing has changed. -/
def Honest (cb : UsrManageHandle δ) (s : UsrManageInner δ) (record : UsrInfo) (call : AccountCall) :
    Prop :=
  ∃ rc s' record', call.run cb s record = .ok (rc, s', record') ∧
    (rc = keyTrue → Performed s.listHead record call s'.listHead record') ∧
    (rc ≠ keyTrue → (∀ users info, ¬ Performed s.listHead record call users info) ∧
      s'.listHead = s.listHead ∧ record' = record)

/-! ## The user table (`mysqlctrl.c`)

The callbacks `AdpHandleInit` registers, on the user table: `UsrName` is its primary key and `UsrId`
an ordinary column. Values are taken to hold no quote, so that each statement is the one meant. The
server compares texts under the table's collation, which need not tell apart what `strcmp` does: that
of a table made without one ignores the case of letters. -/

/-- The rows of the user table, and whether the connection is still open. -/
structure UsrDatabase where
  rows : List UsrInfo
  connected : Bool
  deriving DecidableEq, Repr

/-- A statement needs an open connection: the handle is released when it is closed. -/
def onServer (db : UsrDatabase) (r : ℤ × UsrDatabase) : Except Fault (ℤ × UsrDatabase) :=
  if db.connected then .ok r else .error .badAccess

section

variable (c : Collation CString)

/-- `UsrName` as the table compares it. -/
def usrNameKey (row : UsrInfo) : List ℕ := c.weight row.name

/-- `update … set UsrPasswd = …, CustomName = … where UsrName = …`. -/
def mySqlCtrlSetUsrInfo (info : UsrInfo) (db : UsrDatabase) : Except Fault (ℤ × UsrDatabase) :=
  if info.name.strlen = 0 then .ok (keyFalse, db)
  else
    let rows := updateWhere (usrNameKey c) (usrNameKey c info)
      (fun row => { row with passWord := info.passWord, customname := info.customname }) db.rows
    onServer db (keyTrue, { db with rows })

/-- `select … where UsrName = … and CountryCode = …`, then `insert`. -/
def mySqlCtrlAddUsrInfo (info : UsrInfo) (db : UsrDatabase) : Except Fault (ℤ × UsrDatabase) :=
  if info.name.strlen = 0 then .ok (keyFalse, db)
  else if db.rows.any fun row => usrNameKey c row = usrNameKey c info ∧
      c.weight row.countrycode.str = c.weight info.countrycode.str then
    onServer db (keyUserrepeat, db)
  else
    match insertRow (usrNameKey c) info db.rows with
    | none => onServer db (keyFalse, db)
    | some rows => onServer db (keyTrue, { db with rows })

/-- `update … set UsrName = …, CountryCode = … where UsrId = …`. A name that is taken fails the
    statement, and `error_quit` closes the connection. -/
def mySqlCtrlModifyUsrBindInfo (info : UsrInfo) (_oldusrname : CString) (db : UsrDatabase) :
    Except Fault (ℤ × UsrDatabase) :=
  let rows := updateWhere UserRegistInfo.usrID info.usrID
    (fun row => { row with usrname := info.usrname, countrycode := info.countrycode }) db.rows
  if (rows.map (usrNameKey c)).Nodup then onServer db (keyTrue, { db with rows })
  else onServer db (keyFalse, { db with connected := false })

/-- `delete … where UsrName = …`. -/
def mySqlCtrlDelUsrInfo (info : Option UsrInfo) (db : UsrDatabase) :
    Except Fault (ℤ × UsrDatabase) :=
  match info with
  | none => .error .badAccess
  | some info => onServer db
      (keyTrue, { db with rows := db.rows.filter (usrNameKey c · ≠ usrNameKey c info) })

/-- `select * from …`. -/
def mySqlCtrlGetUsrInfoList (db : UsrDatabase) : Except Fault (ℤ × List UsrInfo) :=
  if db.connected then .ok (keyTrue, db.rows) else .error .badAccess

def mySqlCtrlGetUsrInfoListNum (db : UsrDatabase) : ℤ := db.rows.length

/-- The callbacks as `MySqlManageInit` sets them. -/
def mysqlHandle : UsrManageHandle UsrDatabase where
  addUsrcb := some (mySqlCtrlAddUsrInfo c)
  delUsrcb := some (mySqlCtrlDelUsrInfo c)
  setUsrInfocb := some (mySqlCtrlSetUsrInfo c)
  getUsrInfoListcb := some mySqlCtrlGetUsrInfoList
  getUsrInfoListNumcb := some mySqlCtrlGetUsrInfoListNum
  modifyUsrBindInfocb := some (mySqlCtrlModifyUsrBindInfo c)

end

/-! ## Concrete users -/

/-- A collation that takes a letter and its capital for the same. -/
def ignoreCase : Collation CString where
  weight str := str.bytes.map fun b => if 97 ≤ b ∧ b ≤ 122 then b.toNat - 32 else b.toNat

/-- The callbacks on a table that is made without a collation of its own. -/
abbrev defaultHandle : UsrManageHandle UsrDatabase := mysqlHandle ignoreCase

/-- A string of one character. -/
def letter (c : UInt8) : CString := .ofBuffer [c]

/-- A user whose name and password are one letter. -/
def sampleUsr (c : UInt8) (userLevel : UsrLevel) (usrID : UInt32) : UsrInfo where
  userLevel
  usrname := snprintf _ (letter c)
  passWord := snprintf _ (letter c)
  countrycode := snprintf _ (letter 43)
  customname := snprintf _ (letter c)
  usrID

/-- The users as rows and in the list, as after `InitUsrList`. -/
def sampleState (users : List UsrInfo) : UsrManageInner UsrDatabase where
  listHead := users
  i := 0
  db := { rows := users, connected := true }

end SmartPlat.UsrManage
