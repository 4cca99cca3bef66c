import SmartPlat.Adp.FunctionTable
import Mathlib.Logic.Function.Basic

set_option autoImplicit false

/-! # Sessions (`adpapi.c`, `jsonswitch.c`)

A login authenticates a user, installs the functions of their level on the caller's handle, takes the
next value of the static counter of `MakeUsrID` as the low part of the session id, and enters the
session record in the list of the adapter. A logout finds the record by the id on the handle and
removes it. The JSON interface keeps a list of its own handles and finds one by the session id of a
request.

Any number of threads log in and out at the same time. Each step below is one access to what they
share: the lists, which have locks, the counter, which has none, and the fields of the handles.
`Authentication` and the copy of the user record are taken in one step. -/

namespace SmartPlat.Adp

open SmartPlat.Lib SmartPlat.UsrManage

/-- The address of an `AdpAPIHandle_T`. -/
abbrev HandlePtr := ℕ

/-- The fields of `AdpAPIHandle_T` a login sets; `usrID` is never negative, and `0` when nobody is
    logged in. -/
structure AdpAPIHandle where
  usrID : ℕ
  usrName : CharArray dfMaxlenUsrname
  /-- The members that hold no stub. -/
  functions : Finset AdpFunction

/-- `AdpUsrRegistInfo_T`, the record of a session. -/
structure AdpUsrRegistInfo where
  apiHandle : HandlePtr
  usrInfo : UsrInfo
  deriving DecidableEq

/-- How far a login has come. -/
inductive LoginStage where
  /-- Authenticated, the record filled in; `usrID++` is next. -/
  | registered
  /-- `usrID = usrID % 10000` is next. -/
  | incremented
  /-- The search for the value of the counter is next. -/
  | wrapped
  /-- The search found nothing; `return usrID` and the assignment to `handle->usrID` are next. -/
  | searched
  /-- The record is about to enter the list. -/
  | composed
  deriving DecidableEq, Repr

/-- What a thread is doing. -/
inductive AdpPc where
  | idle
  /-- In `AdpRegistHandle`. -/
  | login (stage : LoginStage) (usr : AdpUsrRegistInfo)
  /-- In `AdpUnRegistHandle`, the record found and not removed yet. -/
  | logout (handle : HandlePtr) (usr : AdpUsrRegistInfo)

structure AdpState where
  /-- The list of the user module. -/
  usrs : List UsrInfo
  /-- The static counter of `MakeUsrID`. -/
  usrID : ℕ
  handles : HandlePtr → AdpAPIHandle
  listUsrRegistHead : List AdpUsrRegistInfo
  /-- The list of `g_JsonApi`. -/
  jsonListHead : List HandlePtr
  threads : ℕ → AdpPc

namespace AdpState

variable (s : AdpState)

/-! ## Searches -/

/-- The id of a session is read from its handle. -/
def sessionID (usr : AdpUsrRegistInfo) : ℕ := (s.handles usr.apiHandle).usrID

/-- `GetUsrRegistInfo`. -/
def getUsrRegistInfo (usrID : ℕ) : Option AdpUsrRegistInfo :=
  lookup s.sessionID usrID s.listUsrRegistHead

/-- The search of `JsonSwitch` for the handle of a request. -/
def jsonSwitchHandle (ssionID : ℕ) : Option HandlePtr :=
  lookup (fun h => (s.handles h).usrID) ssionID s.jsonListHead

/-! ## Writes -/

def setHandle (h : HandlePtr) (handle : AdpAPIHandle) : AdpState :=
  { s with handles := Function.update s.handles h handle }

def setThread (t : ℕ) (pc : AdpPc) : AdpState :=
  { s with threads := Function.update s.threads t pc }

@[simp]
theorem setThread_self (t : ℕ) (pc : AdpPc) : (s.setThread t pc).threads t = pc :=
  Function.update_self _ _ _

theorem setThread_of_ne {t t' : ℕ} (pc : AdpPc) (h : t' ≠ t) :
    (s.setThread t pc).threads t' = s.threads t' :=
  Function.update_of_ne h _ _

@[simp]
theorem setHandle_self (h : HandlePtr) (handle : AdpAPIHandle) :
    (s.setHandle h handle).handles h = handle :=
  Function.update_self _ _ _

theorem setHandle_of_ne {h h' : HandlePtr} (handle : AdpAPIHandle) (hne : h' ≠ h) :
    (s.setHandle h handle).handles h' = s.handles h' :=
  Function.update_of_ne hne _ _

/-- `InitAdpAPIRegistHandleNoAuthor`. -/
def initNoAuthor (h : HandlePtr) : AdpState :=
  s.setHandle h
    { s.handles h with usrID := 0, functions := initNoAuthorFunctions (s.handles h).functions }

end AdpState

/-- The session id: `(userLevel << 16) | MakeUsrID()`. -/
def composeID (level : UsrLevel) (n : ℕ) : ℕ := level.toNat <<< 16 ||| n

/-! ## Steps -/

inductive AdpEvent where
  /-- The user module changes its list. -/
  | users (usrs : List UsrInfo)
  /-- `AdpRegistHandle` up to the call of `MakeUsrID`. -/
  | regist (t : ℕ) (h : HandlePtr) (usrName passwd : CString)
  | increment (t : ℕ)
  | wrap (t : ℕ)
  | search (t : ℕ)
  | compose (t : ℕ)
  | addHandle (t : ℕ)
  /-- `AdpUnRegistHandle` up to the search for the record. -/
  | unRegist (t : ℕ) (h : HandlePtr)
  /-- The rest of `AdpUnRegistHandle`. -/
  | delHandle (t : ℕ)
  /-- `FunLogin` enters the handle of a session in the JSON list. -/
  | funLogin (h : HandlePtr)
  /-- `FunLoginOut` takes a handle out of the JSON list. -/
  | funLoginOut (h : HandlePtr)

/-- `AdpRegistHandle` up to the call of `MakeUsrID`. -/
def adpRegistHandle (t : ℕ) (h : HandlePtr) (usrName passwd : CString) (s : AdpState) :
    Option AdpState :=
  let userLevel := authentication usrName passwd s.usrs
  if userLevel = .invalid then some (s.initNoAuthor h)
  else
    let functions := installFunctions userLevel (initNoAuthorFunctions (s.handles h).functions)
    let handle := ⟨0, snprintf dfMaxlenUsrname usrName, functions⟩
    (findByName (snprintf dfMaxlenUsrname usrName).str s.usrs).map fun registInfo =>
      (s.setHandle h handle).setThread t (.login .registered ⟨h, registInfo⟩)

/-- One step of the adapter; `none` when the thread is somewhere else, or the process would end: at a
    record that is freed twice, or a null pointer. -/
def adpStep (s : AdpState) : AdpEvent → Option AdpState
  | .users usrs => some { s with usrs }
  | .regist t h usrName passwd =>
      match s.threads t with
      | .idle => adpRegistHandle t h usrName passwd s
      | _ => none
  | .increment t =>
      match s.threads t with
      | .login .registered usr =>
          some ({ s with usrID := s.usrID + 1 }.setThread t (.login .incremented usr))
      | _ => none
  | .wrap t =>
      match s.threads t with
      | .login .incremented usr =>
          some ({ s with usrID := s.usrID % 10000 }.setThread t (.login .wrapped usr))
      | _ => none
  | .search t =>
      match s.threads t with
      | .login .wrapped usr =>
          match s.getUsrRegistInfo s.usrID with
          | none => some (s.setThread t (.login .searched usr))
          | some _ => some (s.setThread t (.login .registered usr))
      | _ => none
  | .compose t =>
      match s.threads t with
      | .login .searched usr =>
          let usrID := composeID usr.usrInfo.userLevel s.usrID
          some ((s.setHandle usr.apiHandle { s.handles usr.apiHandle with usrID }).setThread t
            (.login .composed usr))
      | _ => none
  | .addHandle t =>
      match s.threads t with
      | .login .composed usr =>
          some ({ s with listUsrRegistHead := s.listUsrRegistHead ++ [usr] }.setThread t .idle)
      | _ => none
  | .unRegist t h =>
      match s.threads t with
      | .idle =>
          match s.getUsrRegistInfo (s.handles h).usrID with
          | none => some s
          | some usr => some (s.setThread t (.logout h usr))
      | _ => none
  | .delHandle t =>
      match s.threads t with
      | .logout h usr =>
          if usr ∈ s.listUsrRegistHead then
            some (({ s with listUsrRegistHead := s.listUsrRegistHead.erase usr }.initNoAuthor
              h).setThread t .idle)
          else none
      | _ => none
  | .funLogin h =>
      if ∃ usr ∈ s.listUsrRegistHead, usr.apiHandle = h then
        some { s with jsonListHead := s.jsonListHead ++ [h] }
      else none
  | .funLoginOut h => some { s with jsonListHead := s.jsonListHead.erase h }

def AdpStep (s : AdpState) (e : AdpEvent) (s' : AdpState) : Prop := adpStep s e = some s'

/-- Before the first login: all handles are clear. -/
def AdpState.init (usrs : List UsrInfo) : AdpState where
  usrs
  usrID := 0
  handles _ := ⟨0, snprintf _ (.ofBuffer []), ∅⟩
  listUsrRegistHead := []
  jsonListHead := []
  threads _ := .idle

end SmartPlat.Adp
