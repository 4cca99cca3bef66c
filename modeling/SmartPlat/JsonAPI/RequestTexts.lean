import SmartPlat.CharBuffer
import SmartPlat.JsonAPI.Reports
import SmartPlat.UsrManage.Basic

set_option autoImplicit false

/-! # Texts of requests (`jsonswitch.c`, `jsonmap.c`)

The parsers of `jsonmap.c` that copy texts of a request into buffers of their handler. How much they copy
is a number in the parser, how large the buffers are is declared in the handler; so the parsers take
buffers of any size here, and every handler passes its own. -/

namespace SmartPlat

open SmartPlat.Lib

/-- The string that `cJSON_GetObjectItemValueString` copies. -/
def CJson.text (obj : CJson) (name : String) : Option CString :=
  (obj.getObjectItem (ascii name)).bind CJson.valuestring

/-- `cJSON_GetObjectItemValueString`; nobody looks at its result. -/
def CJson.copyValueString {size : ℕ} (obj : CJson) (name : String) (value : CharBuffer size) (len : ℕ) :
    Except Fault (CharBuffer size) :=
  match obj.text name with
  | none => .ok value
  | some s => value.snprintf len s

namespace JsonAPI.Texts

open SmartPlat.MySql

/-! ## The parsers -/

structure HistoryListTexts (m n : ℕ) extends PageRequest where
  location : CharBuffer m
  plateNo : CharBuffer n

def jsonMapGetEntranceHistoryListPares {m n : ℕ} (data : CJson) (location : CharBuffer m)
    (plateNo : CharBuffer n) : Except Fault (HistoryListTexts m n) := do
  let location ← data.copyValueString "location" location 128
  let plateNo ← data.copyValueString "plateno" plateNo 128
  return { toPageRequest := pageRequest data, location, plateNo }

structure PeriodTexts (n : ℕ) where
  time1 : RequestTime
  time2 : RequestTime
  text : CharBuffer n

/-- `char date[64]`, cleared, with the text of one of the dates. -/
def dateBuffer (data : CJson) (name : String) : Except Fault (CharBuffer 64) :=
  data.copyValueString name (.zeros 64) 64

/-- `curTime` is the result of `GetLocalTime`. -/
def jsonMapGetEntrancePlateAnalysis {n : ℕ} (curTime : RequestTime) (data : CJson)
    (time1 time2 : RequestTime) (location : CharBuffer n) : Except Fault (PeriodTexts n) := do
  let date ← dateBuffer data "starttime"
  let time1 : RequestTime :=
    if date.str.strlen > 0 then
      { scanDate date.str.bytes time1 with hour := 0, min := 0, sec := 0 }
    else ⟨1970, 1, 1, 0, 0, 0⟩
  let date ← dateBuffer data "endtime"
  let time2 : RequestTime :=
    if date.str.strlen > 0 then
      { scanDate date.str.bytes time2 with hour := 23, min := 59, sec := 59 }
    else curTime
  let location ← data.copyValueString "location" location 64
  return ⟨time1, time2, location⟩

def jsonMapGetEntranceHistoryCount {n : ℕ} (data : CJson) (time1 time2 : RequestTime)
    (plateNo : CharBuffer n) : Except Fault (PeriodTexts n) := do
  let date ← dateBuffer data "starttime"
  let time1 := { scanDate date.str.bytes time1 with hour := 0, min := 0, sec := 0 }
  let date ← dateBuffer data "endtime"
  let time2 := { scanDate date.str.bytes time2 with hour := 23, min := 59, sec := 59 }
  let plateNo ← data.copyValueString "plateno" plateNo 64
  return ⟨time1, time2, plateNo⟩

def jsonMapVehicleTrajectoryRoute {n : ℕ} (data : CJson) (plateNo : CharBuffer n) :
    Except Fault (CharBuffer n) :=
  data.copyValueString "tokenid" plateNo 64

/-- The members of `UserRegistInfo_T` that a request fills in; its texts are told their own size. -/
structure RegistInfoTexts where
  userLevel : ℤ
  usrname : CharBuffer (UsrManage.dfMaxlenUsrname + 1)
  passWord : CharBuffer (UsrManage.dfMaxlenPasswd + 1)
  countrycode : CharBuffer (UsrManage.dfMaxlenPasswd + 1)

def jsonMapUsrInfoPares (data : CJson) (info : RegistInfoTexts) : Except Fault RegistInfoTexts := do
  let usrname ← data.copyValueString "username" info.usrname (UsrManage.dfMaxlenUsrname + 1)
  let passWord ← data.copyValueString "password" info.passWord (UsrManage.dfMaxlenPasswd + 1)
  let countrycode ← data.copyValueString "countrycode" info.countrycode (UsrManage.dfMaxlenPasswd + 1)
  let userLevel := jsonInt data "level"
  return ⟨if -1 ≠ userLevel then userLevel else info.userLevel, usrname, passWord, countrycode⟩

structure PasswdTexts (l m n : ℕ) where
  username : CharBuffer l
  oldPassword : CharBuffer m
  newPassword : CharBuffer n

def jsonMapUsrPasswdPares {l m n : ℕ} (data : CJson) (username : CharBuffer l)
    (oldPassword : CharBuffer m) (newPassword : CharBuffer n) : Except Fault (PasswdTexts l m n) := do
  let username ← data.copyValueString "username" username 128
  let oldPassword ← data.copyValueString "oldpassword" oldPassword 128
  let newPassword ← data.copyValueString "newpassword" newPassword 128
  return ⟨username, oldPassword, newPassword⟩

/-! ## What the handlers pass -/

/-- The parsers that are called with buffers for texts. -/
inductive TextParser where
  | getEntranceHistoryList
  | getEntrancePlateAnalysis
  | getEntranceHistoryCount
  | vehicleTrajectoryRoute
  | usrInfo
  | usrPasswd
  deriving DecidableEq

/-- A buffer of the handler after the call, with the member of the request it is for. -/
structure FilledBuffer where
  name : String
  size : ℕ
  buffer : CharBuffer size

/-- `TimeYMD_T time = {0}` -/
def zeroTime : RequestTime := ⟨0, 0, 0, 0, 0, 0⟩

/-- A handler up to the end of its parser: `FunGetEntranceHistoryList`, `FunGetEntrancePlateAnalysis`,
    `FunGetEntranceHistoryCount`, `FunGetVehicleTrajectoryRoute`, then `FunAddUser`, `FunCheckUser` and
    `FunResetPassword`, then `FunModifyUsrPasswd`. -/
def TextParser.parse (curTime : RequestTime) (data : CJson) :
    TextParser → Except Fault (List FilledBuffer)
  | getEntranceHistoryList => do
      let r ← jsonMapGetEntranceHistoryListPares data (.zeros 64) (.zeros 64)
      return [⟨"location", 64, r.location⟩, ⟨"plateno", 64, r.plateNo⟩]
  | getEntrancePlateAnalysis => do
      let r ← jsonMapGetEntrancePlateAnalysis curTime data zeroTime zeroTime (.zeros 64)
      return [⟨"location", 64, r.text⟩]
  | getEntranceHistoryCount => do
      let r ← jsonMapGetEntranceHistoryCount data zeroTime zeroTime (.zeros 64)
      return [⟨"plateno", 64, r.text⟩]
  | vehicleTrajectoryRoute => do
      let plateNo ← jsonMapVehicleTrajectoryRoute data (.zeros 64)
      return [⟨"tokenid", 64, plateNo⟩]
  | usrInfo => do
      let r ← jsonMapUsrInfoPares data ⟨0, .zeros _, .zeros _, .zeros _⟩
      return [⟨"username", _, r.usrname⟩, ⟨"password", _, r.passWord⟩,
        ⟨"countrycode", _, r.countrycode⟩]
  | usrPasswd => do
      let r ← jsonMapUsrPasswdPares data (.zeros 128) (.zeros 128) (.zeros 128)
      return [⟨"username", 128, r.username⟩, ⟨"oldpassword", 128, r.oldPassword⟩,
        ⟨"newpassword", 128, r.newPassword⟩]

/-! ## What becomes of a text -/

/-- The text of that name, if there is one, fits `size` bytes with its NUL. -/
def Fits (data : CJson) (name : String) (size : ℕ) : Prop :=
  ∀ s, data.text name = some s → s.strlen < size

/-- The buffer for it is terminated, and holds what fits it. -/
structure Copied {size : ℕ} (data : CJson) (name : String) (b : CharBuffer size) : Prop where
  terminated : b.Terminated
  copied : ∀ s, data.text name = some s → s.strlen < size → b.str = s

/-- The parser stays inside the buffers of its handler, and leaves each as it should be. -/
def KeepsTexts (p : TextParser) (curTime : RequestTime) (data : CJson) : Prop :=
  Ends (p.parse curTime data) fun filled => ∀ f ∈ filled, Copied data f.name f.buffer

variable {size len : ℕ} {data : CJson} {name : String} {value : CharBuffer size}

/-- A limit that is not too small does no harm to a text that fits; one of the buffer's own size never
    does. -/
theorem exists_copyValueString (hvalue : value.Terminated) (hlen : size ≤ len)
    (h : len = size ∨ Fits data name size) :
    ∃ b, data.copyValueString name value len = .ok b ∧ Copied data name b := by
  have hpos : 0 < size := by
    have hmem : 0 < value.bytes.length := List.length_pos_of_mem hvalue
    rwa [value.length_eq] at hmem
  unfold CJson.copyValueString
  split
  · next htext => exact ⟨value, rfl, hvalue, fun s hs => by cases htext.symm.trans hs⟩
  · next s htext =>
      have hnul : 0 ∉ s.bytes.take (len - 1) := fun hmem => s.noNul (List.mem_of_mem_take hmem)
      have hroom : (s.bytes.take (len - 1) ++ [0]).length ≤ size := by
        rw [List.length_append, List.length_take, List.length_singleton]
        rcases h with rfl | h
        · omega
        · have hfits := h s htext
          unfold CString.strlen at hfits
          omega
      show Ends (value.snprintf len s) (Copied data name)
      refine (CharBuffer.ends_snprintf (by omega)).2
        ⟨hroom, CharBuffer.terminated_overwrite_nul hroom, fun t ht hfits => ?_⟩
      obtain rfl := Option.some.inj (htext.symm.trans ht)
      refine CString.ext_bytes ((CharBuffer.str_overwrite_nul hnul hroom).trans ?_)
      unfold CString.strlen at hfits
      exact List.take_of_length_le (by omega)

/-- With a limit above the size of the buffer, a text that does not fit goes past its end. -/
theorem fits_of_copyValueString {R : CharBuffer size → Prop} (hlen : size < len)
    (h : Ends (data.copyValueString name value len) R) : Fits data name size := by
  intro s hs
  rw [CJson.copyValueString, hs] at h
  obtain ⟨hroom, -⟩ := (CharBuffer.ends_snprintf (by omega)).1 h
  rw [List.length_append, List.length_take, List.length_singleton] at hroom
  unfold CString.strlen
  omega

/-- A buffer of zeros that is told its own size. -/
theorem exists_copyValueString_zeros (data : CJson) (name : String) (hsize : 0 < size) :
    ∃ b, data.copyValueString name (.zeros size) size = .ok b ∧ Copied data name b :=
  exists_copyValueString (CharBuffer.terminated_zeros hsize) le_rfl (.inl rfl)

/-! ## The requests that are kept -/

theorem keepsTexts_getEntranceHistoryList (curTime : RequestTime) (data : CJson) :
    KeepsTexts .getEntranceHistoryList curTime data ↔
      Fits data "location" 64 ∧ Fits data "plateno" 64 := by
  simp only [KeepsTexts, TextParser.parse, jsonMapGetEntranceHistoryListPares, ends_bind, ends_pure]
  constructor
  · intro h
    refine ⟨fits_of_copyValueString (by omega) h, ?_⟩
    obtain ⟨location, -, h⟩ := h
    exact fits_of_copyValueString (by omega) h
  · rintro ⟨hlocation, hplate⟩
    have hzeros : (CharBuffer.zeros 64).Terminated := CharBuffer.terminated_zeros (by omega)
    obtain ⟨location, hl, hcopied⟩ := exists_copyValueString hzeros (by decide : 64 ≤ 128) (.inr hlocation)
    obtain ⟨plateNo, hp, hcopied'⟩ := exists_copyValueString hzeros (by decide : 64 ≤ 128) (.inr hplate)
    refine ⟨location, hl, plateNo, hp, ?_⟩
    simp only [List.forall_mem_cons, List.not_mem_nil, false_imp_iff, implies_true, and_true]
    exact ⟨hcopied, hcopied'⟩

theorem keepsTexts_of_ne {p : TextParser} (curTime : RequestTime) (data : CJson)
    (hp : p ≠ .getEntranceHistoryList) : KeepsTexts p curTime data := by
  have hzeros := fun name size => @exists_copyValueString_zeros size data name
  obtain ⟨start, hstart, -⟩ := hzeros "starttime" 64 (by decide)
  obtain ⟨finish, hfinish, -⟩ := hzeros "endtime" 64 (by decide)
  cases p with
  | getEntranceHistoryList => exact absurd rfl hp
  | getEntrancePlateAnalysis =>
      obtain ⟨location, h, hcopied⟩ := hzeros "location" 64 (by decide)
      simp only [KeepsTexts, TextParser.parse, jsonMapGetEntrancePlateAnalysis, dateBuffer, hstart,
        hfinish, h, ends_bind, ends_pure, ends_ok, List.forall_mem_singleton]
      exact hcopied
  | getEntranceHistoryCount =>
      obtain ⟨plateNo, h, hcopied⟩ := hzeros "plateno" 64 (by decide)
      simp only [KeepsTexts, TextParser.parse, jsonMapGetEntranceHistoryCount, dateBuffer, hstart,
        hfinish, h, ends_bind, ends_pure, ends_ok, List.forall_mem_singleton]
      exact hcopied
  | vehicleTrajectoryRoute =>
      obtain ⟨plateNo, h, hcopied⟩ := hzeros "tokenid" 64 (by decide)
      simp only [KeepsTexts, TextParser.parse, jsonMapVehicleTrajectoryRoute, h, ends_bind, ends_pure,
        ends_ok, List.forall_mem_singleton]
      exact hcopied
  | usrInfo =>
      obtain ⟨usrname, hu, hcopied⟩ := hzeros "username" (UsrManage.dfMaxlenUsrname + 1) (by decide)
      obtain ⟨passWord, hp, hcopied'⟩ := hzeros "password" (UsrManage.dfMaxlenPasswd + 1) (by decide)
      obtain ⟨code, hc, hcopied''⟩ := hzeros "countrycode" (UsrManage.dfMaxlenPasswd + 1) (by decide)
      simp only [KeepsTexts, TextParser.parse, jsonMapUsrInfoPares, hu, hp, hc, ends_bind, ends_pure,
        ends_ok, List.forall_mem_cons, List.not_mem_nil, false_imp_iff, implies_true, and_true]
      exact ⟨hcopied, hcopied', hcopied''⟩
  | usrPasswd =>
      obtain ⟨username, hu, hcopied⟩ := hzeros "username" 128 (by decide)
      obtain ⟨oldPassword, ho, hcopied'⟩ := hzeros "oldpassword" 128 (by decide)
      obtain ⟨newPassword, hn, hcopied''⟩ := hzeros "newpassword" 128 (by decide)
      simp only [KeepsTexts, TextParser.parse, jsonMapUsrPasswdPares, hu, ho, hn, ends_bind, ends_pure,
        ends_ok, List.forall_mem_cons, List.not_mem_nil, false_imp_iff, implies_true, and_true]
      exact ⟨hcopied, hcopied', hcopied''⟩

/-- **Texts of any length are kept inside their buffers**, exactly but for the history list, whose parser
    takes its handler's 64 bytes for 128. -/
theorem keepsTexts_iff (p : TextParser) (curTime : RequestTime) (data : CJson) :
    KeepsTexts p curTime data ↔
      (p = .getEntranceHistoryList → Fits data "location" 64 ∧ Fits data "plateno" 64) := by
  by_cases hp : p = .getEntranceHistoryList
  · subst hp
    rw [keepsTexts_getEntranceHistoryList]
    exact ⟨fun h _ => h, fun h => h rfl⟩
  · exact iff_of_true (keepsTexts_of_ne curTime data hp) fun h => absurd h hp

/-- A location of 64 bytes, which the handler has no place for the NUL of. -/
def longLocation : CJson :=
  .item none 0 [(some (.ofBuffer (ascii "location")),
    .item (some ⟨List.replicate 64 97, by decide⟩) 0 [])]

theorem long_location_overflows : ¬ KeepsTexts .getEntranceHistoryList zeroTime longLocation := by
  intro h
  have hfits := ((keepsTexts_getEntranceHistoryList zeroTime longLocation).1 h).1
  exact absurd (hfits ⟨List.replicate 64 97, by decide⟩ rfl) (by decide)

/-! ## Blocks in place of buffers -/

/-- Seen from outside, the copy is the access of `storeText` to a block. -/
theorem ends_copyValueString_iff {n : ℕ} {P : Prop} :
    (Ends (data.copyValueString name value (n + 1)) fun _ => P) ↔
      Ends (storeText (some size) n data name) fun _ => P := by
  unfold CJson.copyValueString CJson.text storeText CJson.getObjectItemValueString
  cases data.getObjectItem (ascii name) with
  | none => simp
  | some tmp =>
      rw [Option.bind_some, Option.bind_some]
      cases tmp.valuestring with
      | none => simp
      | some s =>
          show Ends (value.snprintf (n + 1) s) _ ↔ Ends (touch _ _ _) _
          rw [CharBuffer.ends_snprintf n.succ_pos, ends_touch, Block.holds_some, exists_prop,
            List.length_append]
          rfl

/-- The handler of the history gets as far with its buffers as with blocks of their sizes. -/
theorem ends_jsonMapGetEntranceHistoryListPares_iff {m n : ℕ} (location : CharBuffer m)
    (plateNo : CharBuffer n) :
    (Ends (jsonMapGetEntranceHistoryListPares data location plateNo) fun _ => True) ↔
      Ends (JsonAPI.jsonMapGetEntranceHistoryListPares data (some m) (some n)) fun _ => True := by
  simp only [jsonMapGetEntranceHistoryListPares, JsonAPI.jsonMapGetEntranceHistoryListPares, ends_bind,
    ends_pure, ends_copyValueString_iff]

end JsonAPI.Texts

end SmartPlat
