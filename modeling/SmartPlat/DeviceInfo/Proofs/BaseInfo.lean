import SmartPlat.DeviceInfo.Basic
import SmartPlat.Lib.Transition

set_option autoImplicit false

/-! # Changing the station info

A request changes a field when it has a string or a number for it, in the sense of `takenText` and
`takenNumber`; it is refused when the merged record is out of range. Between its `ConfigManageGet` and
its `ConfigManageSet` a request holds no lock. -/

namespace SmartPlat.LocalInfo

open SmartPlat.Lib

/-! ## The fields of a request -/

/-- The string that a request has for a field, cut to the field. -/
def takenText (data : Option CJson) (f : TextField) : Option (CharArray f.size) :=
  data.bind fun data => data.getObjectItemValueString f.size (ascii f.key)

/-- The number that a request has for a field, if it is not negative. -/
def takenNumber (data : Option CJson) (f : NumberField) : Option ℤ :=
  (data.bind fun data => (data.getObjectItem (ascii f.key)).map CJson.valueint).filter (0 ≤ ·)

/-- The record with the fields of a request, and the other fields as they are. -/
structure Updated (data : Option CJson) (info info' : DeviceInfo) : Prop where
  text : ∀ f, info'.text f = (takenText data f).getD (info.text f)
  number : ∀ f, info'.number f = (takenNumber data f).getD (info.number f)

theorem Updated.unique {data : Option CJson} {info info₁ info₂ : DeviceInfo}
    (h₁ : Updated data info info₁) (h₂ : Updated data info info₂) : info₁ = info₂ :=
  DeviceInfo.ext (funext fun f => (h₁.text f).trans (h₂.text f).symm)
    (funext fun f => (h₁.number f).trans (h₂.number f).symm)

/-- The number that stands for a missing item is not taken, nor is a smaller one. -/
theorem pares_number (conf : CJson) (f : NumberField) (old : ℤ) :
    (if keyFalse < conf.getObjectItemValueInt (ascii f.key) then
      conf.getObjectItemValueInt (ascii f.key) else old) = (takenNumber (some conf) f).getD old := by
  rw [takenNumber, Option.bind_some, CJson.getObjectItemValueInt, keyFalse]
  cases conf.getObjectItem (ascii f.key) with
  | none => rfl
  | some item =>
      simp only [Option.map_some, Option.getD_some, Option.filter_some, decide_eq_true_eq]
      by_cases hneg : 0 ≤ item.valueint
      · rw [if_pos (by omega), if_pos hneg, Option.getD_some]
      · rw [if_neg (by omega), if_neg hneg, Option.getD_none]

theorem updated_merge (data : Option CJson) (info : DeviceInfo) :
    Updated data info (merge data info) := by
  cases data with
  | none => exact ⟨fun _ => rfl, fun _ => rfl⟩
  | some data => exact ⟨fun _ => rfl, fun f => pares_number data f _⟩

/-! ## The JSON form -/

/-- The names in the JSON form, in order. -/
def infoKeys : List String :=
  ["manufacturer", "model", "uuid", "serialNumber", "softwarever", "name", "country", "city", "devType",
    "coverday", "pullinterval", "facethreshold"]

theorem getText_make (info : DeviceInfo) (f : TextField) :
    (jsonMapDeviceInfoMake info).getObjectItemValueString f.size (ascii f.key) =
      some (info.text f) := by
  cases f with
  | facturer => exact CJson.getObjectItemValueString_object infoKeys 0 rfl (by decide) rfl
  | model => exact CJson.getObjectItemValueString_object infoKeys 1 rfl (by decide) rfl
  | uuid => exact CJson.getObjectItemValueString_object infoKeys 2 rfl (by decide) rfl
  | serialNumber => exact CJson.getObjectItemValueString_object infoKeys 3 rfl (by decide) rfl
  | softwareVer => exact CJson.getObjectItemValueString_object infoKeys 4 rfl (by decide) rfl
  | name => exact CJson.getObjectItemValueString_object infoKeys 5 rfl (by decide) rfl
  | country => exact CJson.getObjectItemValueString_object infoKeys 6 rfl (by decide) rfl
  | city => exact CJson.getObjectItemValueString_object infoKeys 7 rfl (by decide) rfl

theorem getNumber_make (info : DeviceInfo) (f : NumberField) :
    (jsonMapDeviceInfoMake info).getObjectItemValueInt (ascii f.key) = info.number f := by
  cases f with
  | devType => exact CJson.getObjectItemValueInt_object infoKeys 8 rfl (by decide) rfl
  | coverDay => exact CJson.getObjectItemValueInt_object infoKeys 9 rfl (by decide) rfl
  | pullInterval => exact CJson.getObjectItemValueInt_object infoKeys 10 rfl (by decide) rfl
  | faceThreshold => exact CJson.getObjectItemValueInt_object infoKeys 11 rfl (by decide) rfl

/-- A record without negative numbers is read back as it is. -/
theorem pares_make {info : DeviceInfo} (hinfo : ∀ f, 0 ≤ info.number f) :
    jsonMapDeviceInfoPares (jsonMapDeviceInfoMake info) .zero = info := by
  refine DeviceInfo.ext (funext fun f => ?_) (funext fun f => ?_)
  · dsimp only [jsonMapDeviceInfoPares]
    rw [getText_make, Option.getD_some]
  · have hpos := hinfo f
    dsimp only [jsonMapDeviceInfoPares]
    rw [getNumber_make, keyFalse]
    exact if_pos (by omega)

/-! ## One request -/

theorem pares_nonneg (conf : CJson) {info : DeviceInfo} (hinfo : ∀ f, 0 ≤ info.number f)
    (f : NumberField) : 0 ≤ (jsonMapDeviceInfoPares conf info).number f := by
  dsimp only [jsonMapDeviceInfoPares]
  rw [keyFalse]
  split
  · next h => omega
  · exact hinfo f

/-- What is read of the store has no negative numbers, whatever is stored. -/
theorem funGetBaseInfo_nonneg (stored : Option CJson) (f : NumberField) :
    0 ≤ (funGetBaseInfo stored).1.number f :=
  pares_nonneg _ (fun _ => le_rfl) f

theorem merge_nonneg (data : Option CJson) {info : DeviceInfo} (hinfo : ∀ f, 0 ≤ info.number f) :
    ∀ f, 0 ≤ (merge data info).number f := by
  cases data with
  | none => exact hinfo
  | some data => exact pares_nonneg data hinfo

theorem funSetBaseInfo_inRange {stored data : Option CJson}
    (h : (merge data (funGetBaseInfo stored).1).InRange) :
    funSetBaseInfo stored data =
      (keyTrue, jsonMapDeviceInfoMake (merge data (funGetBaseInfo stored).1)) := by
  rw [funGetBaseInfo] at h
  simp only [funSetBaseInfo, setDeviceInfo, if_pos h]
  rfl

theorem funSetBaseInfo_outOfRange {stored data : Option CJson}
    (h : ¬ (merge data (funGetBaseInfo stored).1).InRange) :
    funSetBaseInfo stored data = (keyFalse, (funGetBaseInfo stored).2) := by
  rw [funGetBaseInfo] at h
  simp only [funSetBaseInfo, setDeviceInfo, if_neg h]
  rfl

/-- What is read after a request that was accepted. -/
theorem read_after_inRange {stored data : Option CJson}
    (h : (merge data (funGetBaseInfo stored).1).InRange) :
    (funGetBaseInfo (some (funSetBaseInfo stored data).2)).1 =
      merge data (funGetBaseInfo stored).1 := by
  rw [funSetBaseInfo_inRange h]
  exact pares_make (merge_nonneg data (funGetBaseInfo_nonneg stored))

theorem read_after_outOfRange {stored data : Option CJson}
    (h : ¬ (merge data (funGetBaseInfo stored).1).InRange) :
    (funGetBaseInfo (some (funSetBaseInfo stored data).2)).1 = (funGetBaseInfo stored).1 := by
  rw [funSetBaseInfo_outOfRange h]
  rfl

/-- A request changes the fields it has values for, and no other, or is refused. -/
def ChangesFields (stored data : Option CJson) : Prop :=
  ∃ new, Updated data (funGetBaseInfo stored).1 new ∧
    (new.InRange → (funSetBaseInfo stored data).1 = keyTrue ∧
      (funGetBaseInfo (some (funSetBaseInfo stored data).2)).1 = new) ∧
    (¬ new.InRange → (funSetBaseInfo stored data).1 = keyFalse ∧
      (funGetBaseInfo (some (funSetBaseInfo stored data).2)).1 = (funGetBaseInfo stored).1)

theorem changesFields (stored data : Option CJson) : ChangesFields stored data := by
  refine ⟨merge data (funGetBaseInfo stored).1, updated_merge _ _, fun h => ?_, fun h => ?_⟩
  · exact ⟨congrArg Prod.fst (funSetBaseInfo_inRange h), read_after_inRange h⟩
  · exact ⟨congrArg Prod.fst (funSetBaseInfo_outOfRange h), read_after_outOfRange h⟩

/-! ## Concurrent requests -/

variable {ι : Type} [DecidableEq ι]

/-- What request `i` stores, of what it has read; a request that is refused stores nothing. -/
def storedBy (data : ι → Option CJson) (i : ι) (conf : CJson) : Option CJson :=
  if (funSetBaseInfo (some conf) (data i)).1 = keyTrue then
    some (funSetBaseInfo (some conf) (data i)).2
  else none

omit [DecidableEq ι] in
theorem read_after_storedBy {data : ι → Option CJson} {i : ι} {conf conf' : CJson}
    (h : storedBy data i conf = some conf') :
    (funGetBaseInfo (some conf')).1 = merge (data i) (funGetBaseInfo (some conf)).1 := by
  rw [storedBy] at h
  split at h
  · next hret =>
      obtain rfl := Option.some.inj h
      refine read_after_inRange ?_
      by_contra hrange
      rw [funSetBaseInfo_outOfRange hrange] at hret
      cases hret
  · cases h

omit [DecidableEq ι] in
theorem read_after_evalRun {data : ι → Option CJson} {l : List ι} {conf conf' : CJson}
    (h : evalRun (fun conf i => storedBy data i conf) conf l = some conf') :
    (funGetBaseInfo (some conf')).1 =
      l.foldl (fun info i => merge (data i) info) (funGetBaseInfo (some conf)).1 := by
  induction l generalizing conf with
  | nil =>
      obtain rfl := Option.some.inj h
      rfl
  | cons i l ih =>
      obtain ⟨conf₁, hfirst, hrest⟩ := Option.bind_eq_some_iff.1 h
      rw [ih hrest, read_after_storedBy hfirst]
      rfl

/-- **What requests do to the station info.** One request alone changes the fields it has values for, and
    the record is read back; it is refused, and changes nothing, when the new record is out of range.
    Requests that come between each other lose nothing as long as each of them stores what it has made of
    the record that is in the store. -/
theorem baseInfo_updates :
    (∀ stored data, ChangesFields stored data) ∧
      ∀ (data : ι → Option CJson) (conf : CJson) (tr : List (UpdateEvent ι))
        (s : UpdateState CJson ι),
        Run (stepWhen UpToDate (updateStep (storedBy data))) (.init conf) tr s →
          (funGetBaseInfo (some s.store)).1 = (writers tr).foldl
            (fun info i => merge (data i) info) (funGetBaseInfo (some conf)).1 :=
  ⟨changesFields, fun _ _ _ _ h => read_after_evalRun (evalRun_writers h)⟩

/-! ## Requests that change nothing, and one that is lost -/

/-- The store after the first start. -/
def defaultConf : CJson := jsonMapDeviceInfoMake devInfoConfigDefault

/-- One request has another city, the other another name. -/
def twoRequests (i : Fin 2) : Option CJson :=
  if i = 0 then some (.object [("city", .string (.ofBuffer (ascii "beijing")))])
  else some (.object [("name", .string (.ofBuffer (ascii "AIMP 2")))])

omit [DecidableEq ι] in
theorem storedBy_of_keyTrue {data : ι → Option CJson} {i : ι} {conf : CJson}
    (h : (funSetBaseInfo (some conf) (data i)).1 = keyTrue) :
    storedBy data i conf = some (funSetBaseInfo (some conf) (data i)).2 := if_pos h

theorem twoRequests_accepted (i : Fin 2) :
    (funSetBaseInfo (some defaultConf) (twoRequests i)).1 = keyTrue := by
  revert i
  decide

/-- A cover day out of range is refused, a negative device type is passed over, and of two requests that
    read the same record only the second is left. -/
theorem requests_without_effect :
    (funSetBaseInfo (some defaultConf) (some (.object [("coverday", .number 9)]))).1 = keyFalse ∧
      ((funGetBaseInfo (some (funSetBaseInfo (some defaultConf)
        (some (.object [("devType", .number (-1))]))).2)).1.number .devType = 2) ∧
      ∃ s, Run (updateStep (storedBy twoRequests)) (.init defaultConf)
        [.read 0, .read 1, .write 0, .write 1] s ∧
        (funGetBaseInfo (some s.store)).1.text .city = devInfoConfigDefault.text .city := by
  have hfirst := storedBy_of_keyTrue (twoRequests_accepted 0)
  have hsecond := storedBy_of_keyTrue (twoRequests_accepted 1)
  refine ⟨by decide, by decide,
    ⟨(funSetBaseInfo (some defaultConf) (twoRequests 1)).2, _⟩,
    ((Run.nil.snoc ⟨rfl, rfl⟩).snoc ⟨rfl, rfl⟩).snoc ⟨_, _, rfl, hfirst, rfl⟩
      |>.snoc ⟨_, _, rfl, hsecond, rfl⟩, by decide⟩

/-- One after the other they are both there. -/
theorem requests_kept :
    ∃ s, Run (updateStep (storedBy twoRequests)) (.init defaultConf)
      [.read 0, .write 0, .read 1, .write 1] s ∧
      (funGetBaseInfo (some s.store)).1 =
        merge (twoRequests 1) (merge (twoRequests 0) (funGetBaseInfo (some defaultConf)).1) := by
  have hfirst := storedBy_of_keyTrue (twoRequests_accepted 0)
  have haccepted : (funSetBaseInfo (some (funSetBaseInfo (some defaultConf) (twoRequests 0)).2)
      (twoRequests 1)).1 = keyTrue := by decide
  have hrun := (run_alone (s := .init defaultConf) rfl hfirst).append
    (run_alone rfl (storedBy_of_keyTrue haccepted))
  exact ⟨_, hrun.mono fun _ _ _ hs => hs.2, baseInfo_updates.2 twoRequests defaultConf _ _ hrun⟩

end SmartPlat.LocalInfo
