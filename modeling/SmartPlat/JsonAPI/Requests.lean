import SmartPlat.JsonAPI.Switch

set_option autoImplicit false

/-! # Requests at the same time (`jsonswitch.c`)

The HTTP and MQTT threads run `JsonSwitch` at the same time. A request finds its handle in one search
of the list, and its handler uses the handle until it returns. A logout holds the mutex of
`g_JsonApi` while it unregisters its handle and takes it out of the list, and frees it after that; no
other command takes this mutex. A login registers its handle in the steps of `Sessions.lean`. -/

namespace SmartPlat.Adp

/-- The step of `AdpRegistHandle` that is next. -/
def LoginStage.event (t : ℕ) : LoginStage → AdpEvent
  | .registered => .increment t
  | .incremented => .wrap t
  | .wrapped => .search t
  | .searched => .compose t
  | .composed => .addHandle t

end SmartPlat.Adp

namespace SmartPlat.JsonAPI

open SmartPlat.Lib SmartPlat.UsrManage SmartPlat.Adp SmartPlat.Adp.AdpState

/-- Where a thread is in `JsonSwitch`, and the handle of its request. -/
inductive RequestPc where
  | idle
  /-- In `FunLogin`, in `AdpRegistHandle`. -/
  | regist (h : HandlePtr)
  /-- In `FunLogin`, registered; the list is next. -/
  | login (h : HandlePtr)
  /-- In `FunLogin`, entered in the list; the answer still reads the id. -/
  | listed (h : HandlePtr)
  /-- In the handler of another command. -/
  | handler (h : HandlePtr)
  /-- In `FunLoginOut`, before the mutex. -/
  | loginOut (h : HandlePtr)
  /-- In `FunLoginOut`, in `AdpUnRegistHandle`. -/
  | unRegist (h : HandlePtr)
  /-- In `FunLoginOut`, before `HandleManageDelHandle`; `AdpUnRegistHandle` has returned `iret`. -/
  | delHandle (h : HandlePtr) (iret : Bool)
  /-- In `FunLoginOut`, before `MyFree`. -/
  | free (h : HandlePtr) (iret : Bool)
  deriving DecidableEq, Repr

structure ServerState extends JsonState where
  /-- The thread that holds `g_JsonApi.selfMutex`. -/
  selfMutex : Option ℕ
  requests : ℕ → RequestPc

def ServerState.setRequest (s : ServerState) (t : ℕ) (pc : RequestPc) : ServerState :=
  { s with requests := Function.update s.requests t pc }

@[simp]
theorem setRequest_self (s : ServerState) (t : ℕ) (pc : RequestPc) :
    (s.setRequest t pc).requests t = pc :=
  Function.update_self _ _ _

theorem setRequest_of_ne (s : ServerState) {t t' : ℕ} (pc : RequestPc) (h : t' ≠ t) :
    (s.setRequest t pc).requests t' = s.requests t' :=
  Function.update_of_ne h _ _

inductive RequestEvent where
  /-- The user module changes its list. -/
  | users (usrs : List UsrInfo)
  /-- `malloc` returns `handle`, and `AdpRegistHandle` runs up to the call of `MakeUsrID`. -/
  | loginmainserver (t : ℕ) (handle : HandlePtr) (usrName : CharArray dfMaxlenUsrname)
      (password : CharArray dfMaxlenPasswd)
  /-- One more step of `AdpRegistHandle`. -/
  | regist (t : ℕ)
  | addHandle (t : ℕ)
  /-- The search for the handle of a command. -/
  | command (t : ℕ) (ssionID : ℤ)
  /-- The search for the handle of a logout. -/
  | loginoutmainserver (t : ℕ) (ssionID : ℤ)
  /-- The handler returns. -/
  | answer (t : ℕ)
  | lock (t : ℕ)
  /-- `AdpUnRegistHandle` up to the search for the record. -/
  | unRegist (t : ℕ)
  /-- The rest of `AdpUnRegistHandle`. -/
  | unRegistered (t : ℕ)
  /-- `HandleManageDelHandle`, and the mutex is released. -/
  | delHandle (t : ℕ)
  | free (t : ℕ)

/-- The thread that makes the step. -/
def RequestEvent.thread : RequestEvent → Option ℕ
  | .users _ => none
  | .loginmainserver t _ _ _ | .regist t | .addHandle t | .command t _ | .loginoutmainserver t _
  | .answer t | .lock t | .unRegist t | .unRegistered t | .delHandle t | .free t => some t

/-- A request that is not a login goes to its handler `pc`, or is answered `KEY_UNAUTHORIZED`. -/
def dispatch (s : ServerState) (t : ℕ) (ssionID : ℤ) (pc : HandlePtr → RequestPc) :
    Option ServerState :=
  match s.requests t with
  | .idle =>
      match s.handleOf ssionID with
      | none => some s
      | some h => some (s.setRequest t (pc h))
  | _ => none

/-- One step of the server; `none` when the thread is somewhere else. No handler returns one of the
    codes on which `JsonSwitch` frees the handle, except for a refused login. -/
def requestStep (s : ServerState) : RequestEvent → Option ServerState
  | .users usrs => some { s with adp := { s.adp with usrs } }
  | .loginmainserver t h usrName password =>
      match s.requests t with
      | .idle =>
          if h ∈ s.allocated then none
          else
            (adpStep (s.adp.setHandle h clearHandle)
                (.regist t h usrName.str password.str)).map fun adp =>
              if authentication usrName.str password.str s.adp.usrs = .invalid then { s with adp }
              else { s with adp, allocated := insert h s.allocated }.setRequest t (.regist h)
      | _ => none
  | .regist t =>
      match s.requests t, s.adp.threads t with
      | .regist h, .login stage _ =>
          (adpStep s.adp (stage.event t)).map fun adp =>
            if stage = .composed then { s with adp }.setRequest t (.login h) else { s with adp }
      | _, _ => none
  | .addHandle t =>
      match s.requests t with
      | .login h =>
          if (s.adp.handles h).usrID = 0 then some (s.setRequest t .idle)
          else if s.selfMutex.isSome then none
          else
            some ({ s with
              adp := { s.adp with jsonListHead := s.adp.jsonListHead ++ [h] } }.setRequest t
                (.listed h))
      | _ => none
  | .command t ssionID => dispatch s t ssionID .handler
  | .loginoutmainserver t ssionID => dispatch s t ssionID .loginOut
  | .answer t =>
      match s.requests t with
      | .listed _ => some (s.setRequest t .idle)
      | .handler _ => some (s.setRequest t .idle)
      | _ => none
  | .lock t =>
      match s.requests t with
      | .loginOut h =>
          if s.selfMutex.isSome then none
          else some ({ s with selfMutex := some t }.setRequest t (.unRegist h))
      | _ => none
  | .unRegist t =>
      match s.requests t with
      | .unRegist h =>
          (adpStep s.adp (.unRegist t h)).map fun adp =>
            match s.adp.getUsrRegistInfo (s.adp.handles h).usrID with
            | none => { s with adp }.setRequest t (.delHandle h false)
            | some _ => { s with adp }
      | _ => none
  | .unRegistered t =>
      match s.requests t with
      | .unRegist h =>
          (adpStep s.adp (.delHandle t)).map fun adp =>
            { s with adp }.setRequest t (.delHandle h true)
      | _ => none
  | .delHandle t =>
      match s.requests t with
      | .delHandle h iret =>
          if h ∈ s.adp.jsonListHead then
            some ({ s with
              adp := { s.adp with jsonListHead := s.adp.jsonListHead.erase h }
              selfMutex := none }.setRequest t (.free h iret))
          else some ({ s with selfMutex := none }.setRequest t .idle)
      | _ => none
  | .free t =>
      match s.requests t with
      | .free h _ => some ({ s with allocated := s.allocated.erase h }.setRequest t .idle)
      | _ => none

def RequestStep (s : ServerState) (e : RequestEvent) (s' : ServerState) : Prop :=
  requestStep s e = some s'

/-- Before the first request; other modules may be logged in already. -/
def ServerState.init (adp : AdpState) (allocated : Finset HandlePtr) : ServerState where
  adp := { adp with jsonListHead := [], threads := fun _ => .idle }
  allocated
  selfMutex := none
  requests _ := .idle

end SmartPlat.JsonAPI
