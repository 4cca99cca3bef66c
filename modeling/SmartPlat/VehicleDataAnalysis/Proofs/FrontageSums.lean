import SmartPlat.VehicleDataAnalysis.Reports
import SmartPlat.HkSdkManage.Proofs.Tags
import SmartPlat.Lib.GroupBy

set_option autoImplicit false

/-! # Passing vehicles by type and colour

The parsers store five types and four colours, and each has its count. In the answer two of the nine counts
have the same name. -/

namespace SmartPlat.VehicleDataAnalysis

open SmartPlat.Lib SmartPlat.MySql
open SmartPlat.HkSdkManage (PraseEnv HKDVRParam CameraAlarm DataAtt DataUnion confirm
  confirmTheColorOfThePlate confirmTheTypeOfTheVehicle itsVehicleType itsPlatePrase capturePrase
  propertyPrase vcaUnion vcaMessagePrase vcaDataPrase gMessageCallback VehicleAtt)

variable {t : List FrontageRow} {startTime endTime : TimeYMD}

/-! ## What the parsers store -/

/-- A vehicle type and a plate colour that are counted. -/
structure Classed (vehicleType plateColor : ℤ) : Prop where
  type : vehicleType ∈ [4, 1, 2, 3, 0]
  color : plateColor ∈ [3, 5, 2, 0]

theorem confirm_mem {table : List (List UInt8 × ℤ)} {l : List ℤ} (h0 : 0 ∈ l)
    (h : ∀ row ∈ table, row.2 ∈ l) (info : CString) : confirm table info ∈ l := by
  rw [confirm]
  cases hfind : table.find? fun row => (strstr row.1 info.bytes).isSome with
  | none => exact h0
  | some row => exact h row (List.mem_of_find?_eq_some hfind)

theorem color_mem (info : CString) : confirmTheColorOfThePlate info ∈ [3, 5, 2, 0] :=
  confirm_mem (by decide) (by decide) info

theorem type_mem (info : CString) : confirmTheTypeOfTheVehicle info ∈ [4, 1, 2, 3, 0] :=
  confirm_mem (by decide) (by decide) info

theorem itsType_mem (n : ℕ) : itsVehicleType n ∈ [4, 1, 2, 3, 0] := by
  unfold itsVehicleType
  split <;> decide

theorem propertyPrase_classed (env : PraseEnv) {v : VehicleAtt} (h : Classed v.vehicleType v.plateColor)
    (cJitem : CJson) :
    Classed (propertyPrase env v cJitem).vehicleType (propertyPrase env v cJitem).plateColor := by
  rw [propertyPrase]
  split
  · exact h
  · split_ifs
    · exact ⟨h.type, color_mem _⟩
    · exact h
    · exact ⟨type_mem _, h.color⟩
    · exact h
    · exact h

theorem foldl_propertyPrase_classed (env : PraseEnv) (items : List CJson) {v : VehicleAtt}
    (h : Classed v.vehicleType v.plateColor) :
    Classed (items.foldl (propertyPrase env) v).vehicleType
      (items.foldl (propertyPrase env) v).plateColor :=
  List.foldlRecOn (motive := fun v : VehicleAtt => Classed v.vehicleType v.plateColor) items _ h
    fun _ hv item _ => propertyPrase_classed env hv item

theorem capturePrase_classed (env : PraseEnv) {v : VehicleAtt} (h : Classed v.vehicleType v.plateColor)
    (result : CJson) :
    Classed (capturePrase env v result).vehicleType (capturePrase env v result).plateColor := by
  rw [capturePrase]
  split
  · exact h
  · dsimp only
    split
    · exact h
    · exact foldl_propertyPrase_classed env _ h

theorem foldl_capturePrase_classed (env : PraseEnv) (results : List CJson) {v : VehicleAtt}
    (h : Classed v.vehicleType v.plateColor) :
    Classed (results.foldl (capturePrase env) v).vehicleType
      (results.foldl (capturePrase env) v).plateColor :=
  List.foldlRecOn (motive := fun v : VehicleAtt => Classed v.vehicleType v.plateColor) results _ h
    fun _ hv result _ => capturePrase_classed env hv result

/-- What is filled in for a passing vehicle. -/
def StreetClassed (u : DataUnion) : Prop :=
  ∀ x, u = .deviceStreet x → Classed x.vehicleType x.plateColor

theorem itsPlatePrase_classed (env : PraseEnv) (deviceListHead : List HKDVRParam)
    (pAlarmInfo : Option HkSdkManage.NetItsPlateResult) (serial : CString) :
    StreetClassed (itsPlatePrase env deviceListHead pAlarmInfo serial .zero).2.DataUnion := by
  cases pAlarmInfo with
  | none => exact fun x hx => nomatch hx
  | some r =>
    intro x hx
    simp only [itsPlatePrase] at hx
    split at hx
    · cases hx
    split at hx
    · cases hx
    split at hx
    · cases hx
      exact ⟨itsType_mem _, color_mem _⟩
    split at hx
    · split at hx <;> cases hx
    split at hx
    · cases hx
    split at hx <;> cases hx

theorem vcaUnion_classed (env : PraseEnv) (type : ℤ) {v : VehicleAtt}
    (h : Classed v.vehicleType v.plateColor) : ∀ u ∈ vcaUnion env type v, StreetClassed u := by
  intro u hu x hx
  subst hx
  rw [vcaUnion] at hu
  split_ifs at hu
  · cases hu
    exact h
  all_goals cases hu

theorem vcaMessagePrase_classed (env : PraseEnv) (deviceListHead : List HKDVRParam) (msgbuf serial : CString) :
    StreetClassed (vcaMessagePrase env deviceListHead msgbuf serial .zero).2.DataUnion := by
  have hzero : StreetClassed DataAtt.zero.DataUnion := fun x hx => nomatch hx
  rw [vcaMessagePrase]
  split
  · exact hzero
  · split
    · exact hzero
    · dsimp only
      split
      · exact hzero
      · split
        · exact hzero
        · next hunion =>
          refine vcaUnion_classed env _ (foldl_capturePrase_classed env _ ?_) _ hunion
          exact ⟨(by decide : (0 : ℤ) ∈ [4, 1, 2, 3, 0]), (by decide : (0 : ℤ) ∈ [3, 5, 2, 0])⟩

theorem alarmDataPrase_classed (alarmType : HkSdkManage.DeviceAlarmType) (env : PraseEnv)
    (deviceListHead : List HKDVRParam) (channel : Option ℤ) (serial : CString) :
    StreetClassed
      (HkSdkManage.alarmDataPrase alarmType env deviceListHead channel serial .zero).2.DataUnion := by
  intro x hx
  unfold HkSdkManage.alarmDataPrase at hx
  split at hx
  · cases hx
  · split at hx <;> cases hx

theorem callback_classed {env : PraseEnv} {deviceListHead : List HKDVRParam}
    {sSerialNumber : Option CString} {alarm : CameraAlarm} {d : DataAtt}
    (h : gMessageCallback env deviceListHead sSerialNumber alarm = .ok (some d)) :
    StreetClassed d.DataUnion := by
  cases sSerialNumber with
  | none => cases h
  | some serial =>
    cases alarm with
    | itsPlateResult pAlarmInfo =>
      simp only [gMessageCallback, Except.ok.injEq, Option.ite_none_left_eq_some] at h
      obtain ⟨-, hd⟩ := h
      cases hd
      exact itsPlatePrase_classed env deviceListHead pAlarmInfo serial
    | vcaAlarm pAlarmInfo =>
      cases pAlarmInfo with
      | none =>
        cases h
        exact fun x hx => by cases hx
      | some text =>
        simp only [gMessageCallback, vcaDataPrase] at h
        cases hhead : HkSdkManage.httpHeadPrase text with
        | error f => rw [hhead] at h; cases h
        | ok msgbuf =>
          rw [hhead] at h
          cases h
          exact vcaMessagePrase_classed env deviceListHead msgbuf serial
    | thermometryAlarm dwChannel =>
      cases h
      exact alarmDataPrase_classed _ env deviceListHead dwChannel serial
    | firedetectionAlarm byIvmsChannel =>
      cases h
      exact alarmDataPrase_classed _ env deviceListHead byIvmsChannel serial
    | other => cases h

/-- The row has the type and the colour of a vehicle that a parser filled in. -/
def FromCamera (r : FrontageRow) : Prop :=
  ∃ env deviceListHead sSerialNumber alarm type x,
    gMessageCallback env deviceListHead sSerialNumber alarm = .ok (some ⟨type, .deviceStreet x⟩) ∧
      r.vehicletype = x.vehicleType ∧ r.platecolor = x.plateColor

theorem FromCamera.classed {r : FrontageRow} (h : FromCamera r) : Classed r.vehicletype r.platecolor := by
  obtain ⟨env, deviceListHead, sSerialNumber, alarm, type, x, hrecord, htype, hcolor⟩ := h
  rw [htype, hcolor]
  exact callback_classed hrecord x rfl

/-! ## The sums -/

/-- The passing vehicles of a type. -/
def ofVehicle [Server] (startTime endTime : TimeYMD) (vehicleType : ℤ) (r : FrontageRow) : Bool :=
  frontageWindow startTime endTime r.date && r.vehicletype = vehicleType

/-- The passing vehicles with a plate of a colour. -/
def ofColor [Server] (startTime endTime : TimeYMD) (plateColor : ℤ) (r : FrontageRow) : Bool :=
  frontageWindow startTime endTime r.date && r.platecolor = plateColor

theorem sumBySearchtype_vehicle [Server] (t : List FrontageRow) (startTime endTime : TimeYMD)
    {vehicleType : ℤ} (h : vehicleType ≠ -1) :
    mySqlCtrlGetFrontageListSumBySearchtype t startTime endTime vehicleType (-1) =
      t.countP (ofVehicle startTime endTime vehicleType) := by
  rw [mySqlCtrlGetFrontageListSumBySearchtype, if_neg fun hwheres => hwheres.2.1 rfl]
  refine List.countP_congr fun r _ => ?_
  simp [ofVehicle, h]

theorem sumBySearchtype_color [Server] (t : List FrontageRow) (startTime endTime : TimeYMD) {plateColor : ℤ}
    (h : plateColor ≠ -1) :
    mySqlCtrlGetFrontageListSumBySearchtype t startTime endTime (-1) plateColor =
      t.countP (ofColor startTime endTime plateColor) := by
  rw [mySqlCtrlGetFrontageListSumBySearchtype, if_neg fun hwheres => hwheres.2.2 rfl]
  refine List.countP_congr fun r _ => ?_
  simp [ofColor, h]

theorem sum_ofVehicle [Server] (ht : ∀ r ∈ t, Classed r.vehicletype r.platecolor) :
    (countsIn (ofVehicle startTime endTime) [4, 1, 2, 3, 0] t).sum =
      t.countP fun r => frontageWindow startTime endTime r.date := by
  refine sum_countsIn_eq fun r hr => ?_
  have htype := (ht r hr).type
  cases hin : frontageWindow startTime endTime r.date with
  | false => simp [ofVehicle, hin]
  | true =>
    simp only [List.mem_cons, List.not_mem_nil, or_false] at htype
    simp only [ofVehicle, hin, Bool.true_and, List.countP_cons, List.countP_nil, decide_eq_true_iff,
      if_true]
    rcases htype with h | h | h | h | h <;> rw [h] <;> rfl

theorem sum_ofColor [Server] (ht : ∀ r ∈ t, Classed r.vehicletype r.platecolor) :
    (countsIn (ofColor startTime endTime) [3, 5, 2, 0] t).sum =
      t.countP fun r => frontageWindow startTime endTime r.date := by
  refine sum_countsIn_eq fun r hr => ?_
  have hcolor := (ht r hr).color
  cases hin : frontageWindow startTime endTime r.date with
  | false => simp [ofColor, hin]
  | true =>
    simp only [List.mem_cons, List.not_mem_nil, or_false] at hcolor
    simp only [ofColor, hin, Bool.true_and, List.countP_cons, List.countP_nil, decide_eq_true_iff,
      if_true]
    rcases hcolor with h | h | h | h <;> rw [h] <;> rfl

/-! ## The answer -/

/-- The names of the members. -/
def streetNames : List String :=
  ["vancount", "buscount", "tructcount", "carcount", "othercount", "bluecount", "yellowcount",
    "greecount", "othercount"]

theorem streetNames_eq (streetAttr : StreetTypeAttr) :
    streetNames = (streetMembers streetAttr).map Prod.fst := rfl

/-- All but the last name are found where they stand. -/
theorem nameAt_streetNames : ∀ i, ∀ h : i < streetNames.length, i ≠ 8 →
    CJson.NameAt streetNames i (ascii streetNames[i]) := by
  decide

/-- A client that asks for a name gets the first member with it. -/
theorem streetMember_found {streetAttr : StreetTypeAttr} {name : String} {i : ℕ} {m : String × ℕ}
    (hname : CJson.NameAt streetNames i (ascii name)) (hm : (streetMembers streetAttr)[i]? = some m) :
    (jsonMapGetFrontageVehiclesSumMake streetAttr).getObjectItemValueInt (ascii name) = m.2 := by
  have hmember : ((streetMembers streetAttr).map fun m => (m.1, CJson.number m.2))[i]? =
      some (m.1, CJson.number m.2) := by
    rw [List.getElem?_map, hm, Option.map_some]
  exact CJson.getObjectItemValueInt_object streetNames i rfl hname hmember

/-- Every count is found under the name it was added with. -/
def Recovered (streetAttr : StreetTypeAttr) : Prop :=
  ∀ m ∈ streetMembers streetAttr,
    (jsonMapGetFrontageVehiclesSumMake streetAttr).getObjectItemValueInt (ascii m.1) = m.2

theorem recovered_iff (streetAttr : StreetTypeAttr) :
    Recovered streetAttr ↔ streetAttr.vehickeType.OtherCount = streetAttr.plateType.OtherCount := by
  have hother : (jsonMapGetFrontageVehiclesSumMake streetAttr).getObjectItemValueInt
      (ascii "othercount") = streetAttr.vehickeType.OtherCount :=
    streetMember_found (i := 4) (m := ("othercount", streetAttr.vehickeType.OtherCount))
      (by decide) rfl
  constructor
  · intro h
    have hlast := h ("othercount", streetAttr.plateType.OtherCount) (by simp [streetMembers])
    rw [hother] at hlast
    exact_mod_cast hlast
  · intro h m hm
    obtain ⟨i, hi, rfl⟩ := List.getElem_of_mem hm
    by_cases h8 : i = 8
    · subst h8
      exact hother.trans (congrArg Nat.cast h)
    · have hsame : streetNames[i] = ((streetMembers streetAttr)[i]).1 :=
        (List.getElem_of_eq (streetNames_eq streetAttr) hi).trans (List.getElem_map Prod.fst)
      have hname := nameAt_streetNames i hi h8
      rw [hsame] at hname
      exact streetMember_found hname (List.getElem?_eq_getElem hi)

/-- The types add up to the vehicles of the window, the colours do, and a client gets all nine counts. -/
structure FrontageAddsUp [Server] (t : List FrontageRow) (startTime endTime : TimeYMD) : Prop where
  types : (getFrontageVehiclesSum t startTime endTime).vehickeType.VanCount +
      (getFrontageVehiclesSum t startTime endTime).vehickeType.BusCount +
      (getFrontageVehiclesSum t startTime endTime).vehickeType.TruckCount +
      (getFrontageVehiclesSum t startTime endTime).vehickeType.CarCount +
      (getFrontageVehiclesSum t startTime endTime).vehickeType.OtherCount =
    t.countP fun r => frontageWindow startTime endTime r.date
  colors : (getFrontageVehiclesSum t startTime endTime).plateType.BlueCount +
      (getFrontageVehiclesSum t startTime endTime).plateType.GreenCount +
      (getFrontageVehiclesSum t startTime endTime).plateType.YellowCount +
      (getFrontageVehiclesSum t startTime endTime).plateType.OtherCount =
    t.countP fun r => frontageWindow startTime endTime r.date
  recovered : Recovered (getFrontageVehiclesSum t startTime endTime)

/-- **When the breakdown adds up.** For every table of rows from the cameras and every window: the types and
    the colours always add up, and the client gets all nine counts exactly if there are as many vehicles
    of no known type as vehicles with a plate of no known colour. -/
theorem frontageAddsUp_iff [Server] (startTime endTime : TimeYMD) (ht : ∀ r ∈ t, FromCamera r) :
    FrontageAddsUp t startTime endTime ↔
      (t.countP fun r => frontageWindow startTime endTime r.date && r.vehicletype = 0) =
        t.countP fun r => frontageWindow startTime endTime r.date && r.platecolor = 0 := by
  have hclassed : ∀ r ∈ t, Classed r.vehicletype r.platecolor := fun r hr => (ht r hr).classed
  have htype0 := sumBySearchtype_vehicle t startTime endTime (by decide : (0 : ℤ) ≠ -1)
  have hcolor0 := sumBySearchtype_color t startTime endTime (by decide : (0 : ℤ) ≠ -1)
  have hrecovered := recovered_iff (getFrontageVehiclesSum t startTime endTime)
  rw [show (getFrontageVehiclesSum t startTime endTime).vehickeType.OtherCount = _ from htype0,
    show (getFrontageVehiclesSum t startTime endTime).plateType.OtherCount = _ from hcolor0]
    at hrecovered
  constructor
  · exact fun h => hrecovered.1 h.recovered
  · intro h
    refine ⟨?_, ?_, hrecovered.2 h⟩
    · rw [← sum_ofVehicle hclassed]
      simp only [getFrontageVehiclesSum, countsIn, List.map_cons, List.map_nil, List.sum_cons,
        List.sum_nil, Nat.add_zero, Nat.add_assoc]
      simp [sumBySearchtype_vehicle]
    · rw [← sum_ofColor hclassed]
      simp only [getFrontageVehiclesSum, countsIn, List.map_cons, List.map_nil, List.sum_cons,
        List.sum_nil, Nat.add_zero, Nat.add_assoc]
      simp [sumBySearchtype_color]

/-- An NVR with a camera at the street on channel `1`. -/
def streetNvr : HKDVRParam :=
  { HkSdkManage.requestOf (HkSdkManage.letter 65) with
    HkSdkParam := fun _ => { HkSdkManage.HkDeviceParam.zero with
      sDeviceType := HkSdkManage.deviceTypeFrontage
      sChannel := 1 } }

/-- A vehicle that a camera tells the type of, with a plate of no known colour. -/
def passing (byVehicleType : ℕ) : FrontageRow :=
  ⟨"a", 0, itsVehicleType byVehicleType, ⟨2024, 5, 31, 12, 0, 0⟩⟩

theorem fromCamera_passing (byVehicleType : ℕ) : FromCamera (passing byVehicleType) :=
  ⟨HkSdkManage.blankEnv, [streetNvr], some (HkSdkManage.letter 65).str,
    .itsPlateResult (some ⟨.ofBuffer [], byVehicleType, 0, 1, []⟩), HkSdkManage.deviceTypeFrontage, _,
    rfl, rfl, rfl⟩

/-- One of no known type with a blue plate. -/
def passingBlue : FrontageRow := ⟨"b", 3, 0, ⟨2024, 5, 31, 13, 0, 0⟩⟩

theorem fromCamera_passingBlue : FromCamera passingBlue :=
  ⟨{ HkSdkManage.blankEnv with gb2312ToUtf8 := fun s => snprintf _ s }, [streetNvr],
    some (HkSdkManage.letter 65).str,
    .itsPlateResult (some ⟨.ofBuffer [0xE8, 0x93, 0x9D, 65], 0, 0, 1, []⟩),
    HkSdkManage.deviceTypeFrontage, _, rfl, rfl, by decide⟩

/-- As many of no known type as of no known colour. -/
theorem frontageAddsUp_unknown :
    letI : Server := Server.textual
    FrontageAddsUp [passing 3, passingBlue, passing 0] ⟨2024, 5, 1, 0, 0, 0⟩ ⟨2024, 6, 1, 0, 0, 0⟩ := by
  let _ : Server := Server.textual
  have hcameras : ∀ r ∈ [passing 3, passingBlue, passing 0], FromCamera r := by
    simp only [List.forall_mem_cons]
    exact ⟨fromCamera_passing 3, fromCamera_passingBlue, fromCamera_passing 0,
      fun r hr => absurd hr List.not_mem_nil⟩
  exact (frontageAddsUp_iff _ _ hcameras).2 (by decide)

/-- For a car with a plate of no known colour, `othercount` is `0`, the count of the types. -/
theorem plate_othercount_hidden :
    letI : Server := Server.textual
    FromCamera (passing 3) ∧
      (getFrontageVehiclesSum [passing 3] ⟨2024, 5, 1, 0, 0, 0⟩
        ⟨2024, 6, 1, 0, 0, 0⟩).plateType.OtherCount = 1 ∧
      (jsonMapGetFrontageVehiclesSumMake (getFrontageVehiclesSum [passing 3] ⟨2024, 5, 1, 0, 0, 0⟩
        ⟨2024, 6, 1, 0, 0, 0⟩)).getObjectItemValueInt (ascii "othercount") = 0 ∧
      ¬ FrontageAddsUp [passing 3] ⟨2024, 5, 1, 0, 0, 0⟩ ⟨2024, 6, 1, 0, 0, 0⟩ := by
  let _ : Server := Server.textual
  refine ⟨fromCamera_passing 3, by decide, by decide, fun h => ?_⟩
  have hlast := h.recovered ("othercount", 1) (by decide)
  exact absurd hlast (by decide)

end SmartPlat.VehicleDataAnalysis
