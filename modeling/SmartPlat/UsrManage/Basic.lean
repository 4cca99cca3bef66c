import SmartPlat.CString
import SmartPlat.Lib.FirstMatch
import Mathlib.Order.Nat

set_option autoImplicit false

/-! # Users (`Include/usrmanage.h`)

The user record, the list of users kept in memory, and the database callbacks the module is
initialised with. The callbacks are parameters: they work on a database of any type, and may refuse
or crash. -/

namespace SmartPlat.UsrManage

open SmartPlat.Lib

/-! ## Levels -/

/-- `ENUM_USRLEVEL_E`, in ascending order. -/
inductive UsrLevel where
  | invalid
  | device
  | operator
  | administrator
  | root
  deriving DecidableEq, Repr

/-- The value of the enumerator. -/
def UsrLevel.toNat : UsrLevel → ℕ
  | .invalid => 0
  | .device => 1
  | .operator => 2
  | .administrator => 3
  | .root => 4

theorem UsrLevel.toNat_injective : Function.Injective UsrLevel.toNat := by
  intro a b h
  cases a <;> cases b <;> first | rfl | exact absurd h (by decide)

instance : LinearOrder UsrLevel := LinearOrder.lift' UsrLevel.toNat UsrLevel.toNat_injective

/-! ## Records -/

def dfMaxlenUsrname : ℕ := 128

def dfMaxlenPasswd : ℕ := 128

/-- The longest password `ModifyPassword` takes. -/
def effectiveLength : ℕ := 16

/-- `UserRegistInfo_T`. -/
structure UserRegistInfo where
  userLevel : UsrLevel
  usrname : CharArray dfMaxlenUsrname
  passWord : CharArray dfMaxlenPasswd
  countrycode : CharArray dfMaxlenPasswd
  customname : CharArray dfMaxlenUsrname
  usrID : UInt32
  deriving DecidableEq, Repr

/-- `UsrInfo_T`, whose only member is a `UserRegistInfo_T`. -/
abbrev UsrInfo := UserRegistInfo

/-- The string in `usrname`, by which users are searched. -/
abbrev UserRegistInfo.name (u : UserRegistInfo) : CString := u.usrname.str

/-! ## The list and its callbacks -/

def keyUserrepeat : ℤ := 407

def keyNotfound : ℤ := 404

variable {δ : Type*}

/-- `UsrManageInner_T` together with the static counter of `CreateUsrid` and the database behind the
    callbacks. -/
structure UsrManageInner (δ : Type*) where
  listHead : List UsrInfo
  i : UInt32
  db : δ

/-- The callbacks of `UsrManageHandle_T`; each may be `NULL`. `delUsrcb` is handed a pointer that
    need not designate a record. -/
structure UsrManageHandle (δ : Type*) where
  addUsrcb : Option (UsrInfo → δ → Except Fault (ℤ × δ))
  delUsrcb : Option (Option UsrInfo → δ → Except Fault (ℤ × δ))
  setUsrInfocb : Option (UsrInfo → δ → Except Fault (ℤ × δ))
  getUsrInfoListcb : Option (δ → Except Fault (ℤ × List UsrInfo))
  getUsrInfoListNumcb : Option (δ → ℤ)
  modifyUsrBindInfocb : Option (UsrInfo → CString → δ → Except Fault (ℤ × δ))

/-- How an operation ends: a return code and the state it leaves, or a fault. -/
abbrev UsrResult (δ : Type*) := Except Fault (ℤ × UsrManageInner δ)

/-- Call a callback on the database; a `NULL` one leaves the return code at `iret`. -/
def callback (cb : Option (δ → Except Fault (ℤ × δ))) (iret : ℤ) (s : UsrManageInner δ) :
    UsrResult δ :=
  match cb with
  | none => .ok (iret, s)
  | some f => (f s.db).map fun r => (r.1, { s with db := r.2 })

theorem callback_eq_ok {cb : Option (δ → Except Fault (ℤ × δ))} {iret rc : ℤ}
    {s s' : UsrManageInner δ} (h : callback cb iret s = .ok (rc, s')) :
    s'.listHead = s.listHead := by
  cases cb with
  | none =>
      simp only [callback, Except.ok.injEq, Prod.mk.injEq] at h
      rw [h.2]
  | some f =>
      rw [callback] at h
      cases hf : f s.db with
      | error e => simp [hf, Except.map] at h
      | ok r =>
          simp only [hf, Except.map, Except.ok.injEq, Prod.mk.injEq] at h
          rw [← h.2]

end SmartPlat.UsrManage
