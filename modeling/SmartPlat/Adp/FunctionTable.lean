import SmartPlat.UsrManage.Proofs.Change
import Mathlib.Data.Finset.Basic
import Mathlib.Data.Finset.Filter
import Mathlib.Data.Finset.Dedup

set_option autoImplicit false

/-! # The function table of a session (`adpapi.c`)

`AdpRegistManage` installs on a session's handle the functions its level may call.
`InitAdpAPIRegistHandleNoAuthor` puts stubs that return `KEY_FALSE` in place of some of them. Some of
the installed functions are wrappers that pass on the session's own user record, the others are those
of the modules themselves. Of the calls through the table only those about users are modelled. -/

namespace SmartPlat.Adp

open SmartPlat.Lib SmartPlat.UsrManage

variable {δ : Type*}

/-- The operations of `AdpAPIHandle_T`, in the order of its members. -/
inductive AdpFunction where
  | pGetBaseInfo
  | pSetBaseInfo
  | pGetUserRegistInfo
  | pModifyPassword
  | pResetPassword
  | pModifyUsrBindInfo
  | pFindUsr
  | pGetUsrInfoNum
  | pGetUsrInfoList
  | pModifyUsrInfo
  | pGetUsrInfo
  | pAddUsr
  | pCheckUsr
  | pDelUsr
  | pGetPublicKey
  | pSetPublicKey
  | pGetDeviceInfo
  | pSetDeviceInfo
  | pGetDeviceInfoListNum
  | pGetDeviceInfoList
  | pAddDevice
  | pDelDevice
  | pHksdkDeviceAdd
  | pHksdkDeviceDel
  | pHksdkDeviceListGet
  | pHksdkDeviceListSet
  | pHKsdkDeviceAlarmSet
  | pHKsdkDeviceAlarmGet
  | pAddVehicleInfo
  | pGetEntranceVehiclesCurList
  | pGetFrontageVehiclesSum
  | pGetEntranceVehiclesSum
  | pGetEntranceVehiclesList
  | pGetEntranceHistoryList
  | pGetEntrancePlateAnalysis
  | pGetEntranceServiceAnalysis
  | pGetEntranceHistoryCount
  | pGetRefuelingTypeAnalysis
  | pGetOutboundVehiclesAnalysis
  | pGetResidenceTimeAnalysis
  | pGetAbnormalVehicleList
  | pGetRefuelingEfficiencyAnalysis
  | pGetVehicleTrajectoryAnalysis
  | pGetVehicleTrajectoryRoute
  | pGetProportionOfVehicleBehavior
  | pGetProportionOfCarWashing
  | pAddStuckPipeData
  | pGetFuelingRangeProportionByDate
  | pGetFuelQuantityByType
  | pGetOliGunSum
  | pGetOliGunFrequency
  | pGetIntelligentAlarm
  | pGetAlarmProportionAnalysis
  | pGetAlarmPeriodAnalysis
  | pGetAttendanceHistoryList
  | pGetAttendanceHistorySum
  | pGetAttendanceRecord
  | pGetAttendanceRecordSum
  | pGetVisitorsInfo
  | pGetVolumeOfCommutersNum
  | pGetVolumeOfCommutersOfLine
  | pGetVolumeOfCommutersOfSex
  | pGetVolumeOfCommutersOfAge
  | pPushAlarmInfo
  deriving DecidableEq, Repr

/-! ## The table -/

def operatorFunctions : List AdpFunction :=
  [.pModifyUsrInfo, .pModifyPassword, .pResetPassword, .pModifyUsrBindInfo, .pFindUsr,
    .pGetUserRegistInfo, .pGetBaseInfo, .pSetBaseInfo, .pHksdkDeviceAdd, .pHksdkDeviceDel,
    .pHksdkDeviceListGet, .pHksdkDeviceListSet, .pHKsdkDeviceAlarmGet, .pHKsdkDeviceAlarmSet,
    .pAddVehicleInfo, .pGetEntranceVehiclesCurList, .pGetFrontageVehiclesSum,
    .pGetEntranceVehiclesSum, .pGetEntranceVehiclesList, .pGetEntranceHistoryList,
    .pGetEntrancePlateAnalysis, .pGetEntranceServiceAnalysis, .pGetEntranceHistoryCount,
    .pGetRefuelingTypeAnalysis, .pGetOutboundVehiclesAnalysis, .pGetResidenceTimeAnalysis,
    .pGetAbnormalVehicleList, .pGetRefuelingEfficiencyAnalysis, .pGetVehicleTrajectoryAnalysis,
    .pGetVehicleTrajectoryRoute, .pAddStuckPipeData, .pGetFuelingRangeProportionByDate,
    .pGetFuelQuantityByType, .pGetOliGunSum, .pGetOliGunFrequency,
    .pGetProportionOfVehicleBehavior, .pGetProportionOfCarWashing, .pGetAttendanceHistoryList,
    .pGetAttendanceHistorySum, .pGetAttendanceRecord, .pGetAttendanceRecordSum, .pGetVisitorsInfo,
    .pGetVolumeOfCommutersNum, .pGetVolumeOfCommutersOfLine, .pGetVolumeOfCommutersOfSex,
    .pGetVolumeOfCommutersOfAge, .pGetIntelligentAlarm, .pGetAlarmProportionAnalysis,
    .pGetAlarmPeriodAnalysis, .pPushAlarmInfo]

def administratorFunctions : List AdpFunction :=
  [.pAddUsr, .pCheckUsr, .pDelUsr, .pGetUsrInfo, .pAddDevice, .pDelDevice, .pGetDeviceInfo,
    .pSetDeviceInfo, .pGetDeviceInfoList, .pGetDeviceInfoListNum] ++ operatorFunctions

/-- `AdpRegistManage`: the functions installed for a level; each case falls through to the next. -/
def adpRegistManage : UsrLevel → List AdpFunction
  | .root => [.pGetUsrInfoNum, .pGetUsrInfoList] ++ administratorFunctions
  | .administrator => administratorFunctions
  | .operator => operatorFunctions
  | .device | .invalid => []

/-- The members `InitAdpAPIRegistHandleNoAuthor` points at its stubs. -/
def noAuthorFunctions : List AdpFunction :=
  [.pGetBaseInfo, .pSetBaseInfo, .pGetUsrInfoNum, .pGetUsrInfoList, .pModifyUsrInfo, .pAddUsr,
    .pCheckUsr, .pDelUsr, .pGetPublicKey, .pSetPublicKey, .pGetUserRegistInfo, .pModifyPassword,
    .pResetPassword, .pModifyUsrBindInfo, .pAddDevice, .pDelDevice, .pFindUsr, .pGetDeviceInfo,
    .pSetDeviceInfo, .pGetDeviceInfoListNum, .pGetDeviceInfoList, .pAddVehicleInfo,
    .pAddStuckPipeData, .pGetFuelingRangeProportionByDate, .pGetFuelQuantityByType, .pGetOliGunSum,
    .pGetOliGunFrequency]

/-- `InitAdpAPIRegistHandleNoAuthor`, on the members of a handle that hold no stub. -/
def initNoAuthorFunctions (functions : Finset AdpFunction) : Finset AdpFunction :=
  functions.filter (· ∉ noAuthorFunctions)

/-- `AdpRegistManage`, on the members of a handle that hold no stub. -/
def installFunctions (level : UsrLevel) (functions : Finset AdpFunction) : Finset AdpFunction :=
  functions ∪ (adpRegistManage level).toFinset

/-! ## Calls through the table -/

/-- A call of one of the functions that can change the list, or of `CheckUser`. -/
inductive AdpCall where
  | addUsr (info : UsrInfo)
  | checkUsr (info : UsrInfo)
  | delUsr (info : UsrInfo)
  | modifyUsrInfo (info : UsrInfo)
  | modifyPassword (username oldPassword newPassword : CString)
  | resetPassword (username countrycode password : CString)
  | modifyUsrBindInfo (info : UsrInfo) (oldusrname : CString)

/-- The member called. -/
def AdpCall.function : AdpCall → AdpFunction
  | .addUsr _ => .pAddUsr
  | .checkUsr _ => .pCheckUsr
  | .delUsr _ => .pDelUsr
  | .modifyUsrInfo _ => .pModifyUsrInfo
  | .modifyPassword .. => .pModifyPassword
  | .resetPassword .. => .pResetPassword
  | .modifyUsrBindInfo .. => .pModifyUsrBindInfo

/-- The function installed under that member, for the session of `usr`. -/
def AdpCall.invoke (cb : UsrManageHandle δ) (usr : UsrInfo) (s : UsrManageInner δ) :
    AdpCall → UsrResult δ
  | .addUsr info => UsrManage.addUsr cb usr info s
  | .checkUsr info => .ok (checkUser usr info s, s)
  | .delUsr info => UsrManage.delUsr cb usr info s
  | .modifyUsrInfo info => UsrManage.modifyUsrInfo cb usr info s
  | .modifyPassword username old new =>
      if usr.name ≠ username then .ok (keyFalse, s)
      else UsrManage.modifyPassword cb username old new s
  | .resetPassword username countrycode password =>
      UsrManage.resetPassword cb username countrycode password s
  | .modifyUsrBindInfo info old => UsrManage.modifyUsrBindInfo cb info old s

/-- A call through the handle of a session of `usr`. -/
def AdpCall.run (cb : UsrManageHandle δ) (usr : UsrInfo) (c : AdpCall) (s : UsrManageInner δ) :
    UsrResult δ :=
  if c.function ∈ adpRegistManage usr.userLevel then c.invoke cb usr s else .ok (keyFalse, s)

/-- A call together with the user record its session was opened with. -/
structure SessionCall where
  usr : UsrInfo
  call : AdpCall

/-- The level of the actor. -/
abbrev SessionCall.level (c : SessionCall) : UsrLevel := c.usr.userLevel

/-- One call on one session that returns, with any code. -/
def SessionStep (cb : UsrManageHandle δ) (s : UsrManageInner δ) (c : SessionCall)
    (s' : UsrManageInner δ) : Prop :=
  ∃ rc, c.call.run cb c.usr s = .ok (rc, s')

/-! ## Calls of the user module behind them -/

/-- The call of the user module that a call through the table makes, if it changes the list. -/
def SessionCall.usrCall (c : SessionCall) : Option UsrCall :=
  match c.call with
  | .addUsr info => some (.addUsr c.usr info)
  | .checkUsr _ => none
  | .delUsr info => some (.delUsr c.usr info)
  | .modifyUsrInfo info => some (.modifyUsrInfo c.usr info)
  | .modifyPassword username old new =>
      if c.usr.name = username then some (.modifyPassword username old new) else none
  | .resetPassword username countrycode password =>
      some (.resetPassword username countrycode password)
  | .modifyUsrBindInfo info old => some (.modifyUsrBindInfo info old)

variable {cb : UsrManageHandle δ} {s s' : UsrManageInner δ} {rc : ℤ}

theorem invoke_cases {usr : UsrInfo} {call : AdpCall} (h : call.invoke cb usr s = .ok (rc, s')) :
    s' = s ∨ ∃ u, (SessionCall.mk usr call).usrCall = some u ∧ u.run cb s = .ok (rc, s') := by
  cases call with
  | addUsr info => exact .inr ⟨_, rfl, h⟩
  | checkUsr info =>
      simp only [AdpCall.invoke, Except.ok.injEq, Prod.mk.injEq] at h
      exact .inl h.2.symm
  | delUsr info => exact .inr ⟨_, rfl, h⟩
  | modifyUsrInfo info => exact .inr ⟨_, rfl, h⟩
  | modifyPassword username old new =>
      rw [AdpCall.invoke] at h
      split at h
      · exact .inl (refused keyFalse_ne h).2
      · next hown => exact .inr ⟨_, if_pos (not_not.1 hown), h⟩
  | resetPassword username countrycode password => exact .inr ⟨_, rfl, h⟩
  | modifyUsrBindInfo info old => exact .inr ⟨_, rfl, h⟩

/-- **Inversion.** A call through the table leaves the list alone, or its function is installed and
    makes the change of the user module. -/
theorem SessionStep.cases {c : SessionCall} (h : SessionStep cb s c s') :
    s'.listHead = s.listHead ∨
      c.call.function ∈ adpRegistManage c.level ∧
        ∃ u, c.usrCall = some u ∧ UsrChange cb s u s'.listHead := by
  obtain ⟨rc, hrun⟩ := h
  unfold AdpCall.run at hrun
  split at hrun
  · next hmem =>
      rcases invoke_cases hrun with hsame | ⟨u, hu, hurun⟩
      · exact .inl (by rw [hsame])
      · rcases UsrCall.run_cases hurun with hrefused | hchange
        · exact .inl (by rw [hrefused.2])
        · exact .inr ⟨hmem, u, hu, hchange⟩
  · exact .inl (by rw [(refused keyFalse_ne hrun).2])

end SmartPlat.Adp
