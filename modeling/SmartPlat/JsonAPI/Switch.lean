import SmartPlat.Adp.Sessions
import SmartPlat.CJson
import SmartPlat.CJsonPrint

set_option autoImplicit false

/-! # Requests, sessions and responses (`jsonswitch.c`, `adpapi.c`)

`JsonSwitch` allocates a handle for a login, finds the handle of any other request by its session id,
runs the command, and decides by its result code whether the handle is freed. Here requests come one
after the other; the steps of `Sessions.lean` that make up a login or a logout are taken at once. -/

namespace SmartPlat.Adp.AdpState

open SmartPlat.Lib SmartPlat.UsrManage SmartPlat.Adp

def keyUnauthorized : ℤ := 401

/-- `MakeUsrID`, with the values it may still try. -/
def makeUsrID (s : AdpState) : ℕ → ℕ → Option ℕ
  | 0, _ => none
  | fuel + 1, usrID =>
      let usrID := (usrID + 1) % 10000
      match s.getUsrRegistInfo usrID with
      | some _ => makeUsrID s fuel usrID
      | none => some usrID

/-- `AdpRegistHandle`. `MakeUsrID` does not return if all of its values are session ids. -/
def registHandle (s : AdpState) (h : HandlePtr) (usrName passwd : CString) :
    Option (ℤ × AdpState) :=
  let userLevel := authentication usrName passwd s.usrs
  if userLevel = .invalid then some (keyUnauthorized, s.initNoAuthor h)
  else
    let functions := installFunctions userLevel (initNoAuthorFunctions (s.handles h).functions)
    let handle : AdpAPIHandle := ⟨0, snprintf dfMaxlenUsrname usrName, functions⟩
    (findByName (snprintf dfMaxlenUsrname usrName).str s.usrs).bind fun registInfo =>
      ((s.setHandle h handle).makeUsrID 10000 s.usrID).map fun n =>
        (keyTrue, { s.setHandle h { handle with usrID := composeID registInfo.userLevel n } with
          usrID := n
          listUsrRegistHead := s.listUsrRegistHead ++ [⟨h, registInfo⟩] })

/-- `AdpUnRegistHandle` -/
def unRegistHandle (s : AdpState) (h : HandlePtr) : AdpState :=
  match s.getUsrRegistInfo (s.handles h).usrID with
  | none => s
  | some usr => { s with listUsrRegistHead := s.listUsrRegistHead.erase usr }.initNoAuthor h

end SmartPlat.Adp.AdpState

namespace SmartPlat.JsonAPI

open SmartPlat.Lib SmartPlat.UsrManage SmartPlat.Adp SmartPlat.Adp.AdpState

def keyUserrepeatlogin : ℤ := 402

def keyNoresponse : ℤ := 414

/-- Between two requests. -/
structure JsonState where
  adp : AdpState
  /-- The handles in memory that is in use. -/
  allocated : Finset HandlePtr

/-- What a request is answered: the status, if there is an answer, and the id of a new session. -/
structure JsonAnswer where
  statuscode : Option ℤ
  sessionid : Option ℕ
  deriving DecidableEq, Repr

/-! ## Commands -/

/-- `FunLogin` -/
def funLogin (h : HandlePtr) (usrName : CharArray dfMaxlenUsrname)
    (password : CharArray dfMaxlenPasswd) (s : JsonState) : Option (ℤ × Option ℕ × JsonState) :=
  (s.adp.registHandle h usrName.str password.str).map fun r =>
    let usrID := (r.2.handles h).usrID
    if r.1 ≠ keyTrue ∨ usrID = 0 then (r.1, none, { s with adp := r.2 })
    else
      (keyTrue, some usrID,
        { s with adp := { r.2 with jsonListHead := r.2.jsonListHead ++ [h] } })

/-- `FunLoginOut` -/
def funLoginOut (h : HandlePtr) (s : JsonState) : ℤ × JsonState :=
  let adp := s.adp.unRegistHandle h
  if h ∈ adp.jsonListHead then
    (keyTrue, ⟨{ adp with jsonListHead := adp.jsonListHead.erase h }, s.allocated.erase h⟩)
  else (keyFalse, { s with adp })

/-! ## `JsonSwitch` -/

/-- The search for the handle of a request, by the number in its session id. -/
def JsonState.handleOf (s : JsonState) (ssionID : ℤ) : Option HandlePtr :=
  if 0 ≤ ssionID then s.adp.jsonSwitchHandle ssionID.toNat else none

/-- The end of `JsonSwitch`, after a command on `handle` has returned `iret`. -/
def respond (handle : HandlePtr) (iret : ℤ) (sessionid : Option ℕ) (s : JsonState) :
    JsonAnswer × JsonState :=
  if iret = keyTrue then (⟨some 200, sessionid⟩, s)
  else if iret = keyNoresponse then (⟨none, none⟩, s)
  else
    (⟨some (if iret = keyFalse then 400 else iret), none⟩,
      if iret = keyUnauthorized ∨ iret = keyUserrepeatlogin then
        { s with allocated := s.allocated.erase handle }
      else s)

inductive JsonEvent where
  /-- `malloc` returns `handle`. -/
  | loginmainserver (handle : HandlePtr) (usrName : CharArray dfMaxlenUsrname)
      (password : CharArray dfMaxlenPasswd)
  | loginoutmainserver (ssionID : ℤ)
  /-- Any other command: what it returns, and the list of users it leaves. -/
  | command (ssionID iret : ℤ) (usrs : List UsrInfo)
  /-- No command of this name. -/
  | unknown
  /-- Another module logs in, on a handle of its own. -/
  | inner (handle : HandlePtr) (usrName passwd : CString)

/-- A handle fresh from `malloc` and `memset`. -/
def clearHandle : AdpAPIHandle := ⟨0, snprintf _ (.ofBuffer []), ∅⟩

def jsonSwitch (s : JsonState) : JsonEvent → Option (JsonAnswer × JsonState)
  | .loginmainserver h usrName password =>
      if h ∈ s.allocated then none
      else
        (funLogin h usrName password ⟨s.adp.setHandle h clearHandle, insert h s.allocated⟩).map
          fun r => respond h r.1 r.2.1 r.2.2
  | .loginoutmainserver ssionID =>
      match s.handleOf ssionID with
      | none => some (⟨some keyUnauthorized, none⟩, s)
      | some h =>
          let r := funLoginOut h s
          some (respond h r.1 none r.2)
  | .command ssionID iret usrs =>
      match s.handleOf ssionID with
      | none => some (⟨some keyUnauthorized, none⟩, s)
      | some h => some (respond h iret none { s with adp := { s.adp with usrs } })
  | .unknown => some (⟨none, none⟩, s)
  | .inner h usrName passwd =>
      if h ∈ s.allocated then none
      else
        (s.adp.registHandle h usrName passwd).map fun r =>
          if r.1 = keyTrue then (⟨some 200, none⟩, ⟨r.2, insert h s.allocated⟩)
          else (⟨some r.1, none⟩, { s with adp := r.2 })

/-- A request with the answer it gets. -/
def JsonStep (s : JsonState) (e : JsonEvent × JsonAnswer) (s' : JsonState) : Prop :=
  jsonSwitch s e.1 = some (e.2, s')

def JsonState.init (usrs : List UsrInfo) : JsonState := ⟨.init usrs, ∅⟩

/-! ## The text of a response

`JsonSwitch` again, from the text of a request to the text in the caller's buffer. Sessions are above, and
what the commands do is in the modules of the handlers; here a command is what it returns and what it
adds to the response. -/

def keyCmdnotfound : ℤ := -404

/-- `JsonMsg_T`, without the members that nothing sets. -/
structure JsonMsg where
  cmd : CharArray 31
  mothod : CharArray 31
  ssionID : CharArray 31
  msgID : CharArray 31
  deviceId : CharArray 127
  srctopic : CharArray 127
  desttopic : CharArray 127
  bodyData : Option CJson

/-- A text of the request, in a cleared array. -/
def textOf (n : ℕ) (obj : Option CJson) (name : String) : CharArray n :=
  (obj.bind fun obj => obj.getObjectItemValueString n (ascii name)).getD (snprintf n (.ofBuffer []))

/-- `ParesJsonMsg` -/
def paresJsonMsg (data : CJson) : JsonMsg :=
  let bodyData := data.getObjectItem (ascii "data")
  { cmd := textOf 31 (some data) "cmd"
    mothod := textOf 31 (some data) "method"
    msgID := textOf 31 (some data) "msgid"
    ssionID := textOf 31 (some data) "sessionid"
    srctopic := textOf 127 (some data) "srctopic"
    desttopic := textOf 127 (some data) "desttopic"
    bodyData := bodyData
    deviceId := textOf 127 bodyData "cameraid" }

/-- A name in the program. -/
def constant (s : String) : CString := .ofBuffer (ascii s)

/-- `MakeJsonMsg` -/
def makeJsonMsg (head : JsonMsg) : List (CString × CJsonItem) :=
  [(constant "cmd", .string head.cmd.str), (constant "method", .string (constant "response")),
    (constant "msgid", .string head.msgID.str)]

/-- The names in `cmdList`, in order. -/
def cmdList : List String :=
  ["loginmainserver", "loginoutmainserver", "getbaseinfo", "setbaseinfo", "adduser",
    "registrationcheckuser", "userresetpassword", "adddevice", "deldevice", "getdeviceinfo",
    "setdeviceinfo", "getdeviceinfolist",
    "sdkdeviceadd", "sdkdevicedel", "sdkdevicelistget", "sdkdevicelistset", "sdkdeviceipcamset",
    "sdkdevicealarmget", "sdkdevicealarmset",
    "getentrancevehiclescurlist", "getfrontagevehiclessum", "getentrancevehiclessum",
    "getentrancevehiclelist", "getentrancehistorylist", "getentranceserviceanalysis",
    "getentranceplateanalysis", "getentrancehistorycount", "getrefuelingtypeanalysis",
    "getoutboundvehiclesanalysis", "getresidencetimeanalysis", "getabnormalvehiclelist",
    "getrefuelingefficiencyanalysis", "getvehicletrajectoryanalysis", "getvehicletrajectoryroute",
    "getproportionofvehiclebehavior", "getproportionofcarwashing",
    "getattendance", "getattendancedeta", "getattendancelisthistory", "getvisitors",
    "getvolumeofcommutersnum", "getvolumeofcommutersofline", "getvolumeofcommutersofsex",
    "getvolumeofcommutersofage",
    "getintelligentalarm", "getalarmproportionanalysis", "getalarmperiodanalysis",
    "uploadoilstationdata", "getoilstationdata"]

/-- What `JsonSwitch` meets. -/
structure JsonServer where
  /-- `cJSON_Parse` -/
  parse : List UInt8 → Option CJson
  /-- Whether `HandleManageGetHandleByInt` finds a handle for the number. -/
  hasHandle : ℤ → Bool
  /-- What a command of this name returns for the item `data`, and what it adds to `respData`. -/
  command : String → Option CJson → ℤ × List (CString × CJsonItem)

namespace JsonServer

variable (server : JsonServer)

/-- `cJSON_AddNumberToObject(respData, "statuscode", …)` -/
def withStatuscode (respData : List (CString × CJsonItem)) (statusCode : ℤ) : CJsonItem :=
  .object (respData ++ [(constant "statuscode", .number statusCode)])

/-- What `JsonSwitch` returns, and the item that it prints, if it prints one. -/
def respData (requst : List UInt8) : ℤ × Option CJsonItem :=
  match server.parse requst with
  | none => (keyFalse, none)
  | some data =>
      let jsonMsg := paresJsonMsg data
      let respData := makeJsonMsg jsonMsg
      match cmdList.find? fun cmd => strcasecmp jsonMsg.cmd.str.bytes (ascii cmd) with
      | none => (keyCmdnotfound, none)
      | some cmd =>
          if cmd ≠ "loginmainserver" ∧ server.hasHandle (atoi jsonMsg.ssionID.str.bytes) = false then
            (keyUnauthorized, some (withStatuscode respData keyUnauthorized))
          else
            let r := server.command cmd jsonMsg.bodyData
            if r.1 = keyTrue then (r.1, some (withStatuscode (respData ++ r.2) 200))
            else if r.1 = keyNoresponse then (r.1, none)
            else
              (r.1, some (withStatuscode (respData ++ r.2) (if r.1 = keyFalse then 400 else r.1)))

end JsonServer

/-- `JsonPrintUnformatted`, into a buffer of that size. -/
def jsonPrintUnformatted (size : ℕ) (respData : CJsonItem) : Except Fault CString :=
  let out := respData.printUnformatted
  if out.strlen < size then .ok out else .error .badAccess

/-- `JsonSwitch`: the result, and what a cleared buffer of that size holds then. The size is passed as
    `buffLen`, which nothing reads. -/
def JsonServer.jsonSwitch (server : JsonServer) (requst : List UInt8) (size : ℕ) :
    Except Fault (ℤ × CString) :=
  match server.respData requst with
  | (iret, none) => .ok (iret, .ofBuffer [])
  | (iret, some respData) => (jsonPrintUnformatted size respData).map fun response => (iret, response)

end SmartPlat.JsonAPI
