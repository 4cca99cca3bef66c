import SmartPlat.HkSdkManage.Dataprase
import SmartPlat.HkSdkManage.Proofs.Ownership

set_option autoImplicit false

/-! # The type of a record and what is in it

The parsers take the type from the role of the camera. The two that fill in an alarm do so for every
role; the other two fill in the member of the role, and none for the role of an alarm camera. -/

namespace SmartPlat.HkSdkManage

variable {env : PraseEnv} {deviceListHead : List HKDVRParam} {serial : CString}

/-! ## The property and its condition -/

/-- The record that is enqueued, if any, has the type of what is in it. -/
def RecordTagged (r : Except Fault (Option DataAtt)) : Prop :=
  match r with
  | .error _ => False
  | .ok d => ∀ x ∈ d, x.Tagged

/-- The camera that an alarm comes from is an alarm camera, or is not found. -/
def FromAlarmCamera (deviceListHead : List HKDVRParam) (serial : CString) (channel : ℤ) : Prop :=
  ∀ cam ∈ getDeviceType deviceListHead channel serial, cam.sDeviceType = deviceTypeAlarm

/-- The camera that a capture comes from is no alarm camera. -/
def FromOtherCamera (deviceListHead : List HKDVRParam) (serial : CString) (channel : ℤ) : Prop :=
  ∀ cam ∈ getDeviceType deviceListHead channel serial, cam.sDeviceType ≠ deviceTypeAlarm

/-- A temperature or fire alarm comes from an alarm camera; a plate that is recognised, and a mixed
    alarm with captures, from another one, and the head of a mixed alarm can be read. -/
def TagSafe (env : PraseEnv) (deviceListHead : List HKDVRParam) (serial : CString) :
    CameraAlarm → Prop
  | .itsPlateResult pAlarmInfo =>
      ∀ r ∈ pAlarmInfo, (env.gb2312ToUtf8 r.sLicense).str.bytes ≠ noPlate →
        FromOtherCamera deviceListHead serial r.byChanIndex
  | .vcaAlarm pAlarmInfo =>
      ∀ text ∈ pAlarmInfo, ∃ msgbuf, httpHeadPrase text = .ok msgbuf ∧
        ∀ data ∈ env.cJSONParse msgbuf, (data.getObjectItem (Lib.ascii "CaptureResult")).isSome →
          FromOtherCamera deviceListHead serial (data.getObjectItemValueInt (Lib.ascii "channelID"))
  | .thermometryAlarm channel | .firedetectionAlarm channel =>
      ∀ c ∈ channel, FromAlarmCamera deviceListHead serial c
  | .other => True

/-! ## Roles and their members -/

theorem tagged_zero : DataAtt.zero.Tagged := by decide

theorem memoryDataMember_eq_alarm_iff {type : ℤ} :
    memoryDataMember type = some .deviceAlarm ↔ type = deviceTypeAlarm := by
  constructor
  · intro h
    unfold memoryDataMember at h
    split at h
    · cases h
    split at h
    · cases h
    split at h
    · cases h
    split at h
    · cases h
    split at h
    · assumption
    · cases h
  · rintro rfl
    decide

/-- Nothing was filled in for a role that has no member but that of an alarm. -/
theorem tagged_empty_iff {type : ℤ} (hfrontage : type ≠ deviceTypeFrontage)
    (hentrance : type ≠ deviceTypeEntrance) (hwash : type ≠ deviceTypeWash)
    (hisland : type ≠ deviceTypeIsland) :
    (⟨type, .zero⟩ : DataAtt).Tagged ↔ type ≠ deviceTypeAlarm := by
  show memoryDataMember type = none ↔ _
  rw [memoryDataMember, if_neg hfrontage, if_neg hentrance, if_neg hwash, if_neg hisland]
  simp

/-- The member of the role was filled in. -/
theorem tagged_filled_iff {type : ℤ} {u : DataUnion} {m : UnionMember}
    (h : memoryDataMember type = some m) (hu : u.member = some m) (hne : m ≠ .deviceAlarm) :
    (⟨type, u⟩ : DataAtt).Tagged ↔ type ≠ deviceTypeAlarm := by
  refine iff_of_true (h.trans hu.symm) fun halarm => hne ?_
  exact Option.some.inj (h.symm.trans (memoryDataMember_eq_alarm_iff.2 halarm))

section

variable {channel : ℤ} {cam : HkDeviceParam}

theorem fromOtherCamera_of_none (h : getDeviceType deviceListHead channel serial = none) :
    FromOtherCamera deviceListHead serial channel := by
  simp [FromOtherCamera, h]

theorem fromOtherCamera_iff (h : getDeviceType deviceListHead channel serial = some cam) :
    FromOtherCamera deviceListHead serial channel ↔ cam.sDeviceType ≠ deviceTypeAlarm := by
  simp [FromOtherCamera, h]

/-! ## One parser after the other -/

/-- The plate parser fills in the member of the role, if it has one. -/
theorem itsPlatePrase_spec {r : NetItsPlateResult}
    (hno : (env.gb2312ToUtf8 r.sLicense).str.bytes ≠ noPlate)
    (hcam : getDeviceType deviceListHead r.byChanIndex serial = some cam) :
    ((itsPlatePrase env deviceListHead (some r) serial .zero).2.Tagged ↔
        cam.sDeviceType ≠ deviceTypeAlarm) ∧
      ((itsPlatePrase env deviceListHead (some r) serial .zero).1 < 0 →
        cam.sDeviceType ≠ deviceTypeAlarm) := by
  have hkept : ¬ keyTrue < 0 := by decide
  simp only [itsPlatePrase, if_neg hno, hcam]
  by_cases hfrontage : cam.sDeviceType = deviceTypeFrontage
  · rw [if_pos hfrontage]
    exact ⟨tagged_filled_iff (by rw [hfrontage]; rfl) rfl (by decide), fun h => absurd h hkept⟩
  rw [if_neg hfrontage]
  by_cases hentrance : cam.sDeviceType = deviceTypeEntrance
  · rw [if_pos hentrance]
    have htag : ∀ x, (⟨cam.sDeviceType, .deviceEntrance x⟩ : DataAtt).Tagged ↔
        cam.sDeviceType ≠ deviceTypeAlarm := fun x =>
      tagged_filled_iff (by rw [hentrance]; rfl) rfl (by decide)
    split
    · exact ⟨htag _, fun _ => by rw [hentrance]; decide⟩
    · exact ⟨htag _, fun h => absurd h hkept⟩
  rw [if_neg hentrance]
  by_cases hwash : cam.sDeviceType = deviceTypeWash
  · rw [if_pos hwash]
    exact ⟨tagged_filled_iff (by rw [hwash]; rfl) rfl (by decide), fun h => absurd h hkept⟩
  rw [if_neg hwash]
  by_cases hisland : cam.sDeviceType = deviceTypeIsland
  · rw [if_pos hisland]
    exact ⟨tagged_filled_iff (by rw [hisland]; rfl) rfl (by decide), fun h => absurd h hkept⟩
  · rw [if_neg hisland]
    exact ⟨tagged_empty_iff hfrontage hentrance hwash hisland, fun h => absurd h hkept⟩

/-- The parser of mixed alarms fills in the member of the role, and nothing for a role without one. -/
theorem vcaUnion_spec (type : ℤ) (v : VehicleAtt) :
    ((⟨type, (vcaUnion env type v).getD .zero⟩ : DataAtt).Tagged ↔ type ≠ deviceTypeAlarm) := by
  unfold vcaUnion
  by_cases hfrontage : type = deviceTypeFrontage
  · rw [if_pos hfrontage]
    exact tagged_filled_iff (by rw [hfrontage]; rfl) rfl (by decide)
  rw [if_neg hfrontage]
  by_cases hentrance : type = deviceTypeEntrance
  · rw [if_pos hentrance]
    exact tagged_filled_iff (by rw [hentrance]; rfl) rfl (by decide)
  rw [if_neg hentrance]
  by_cases hwash : type = deviceTypeWash
  · rw [if_pos hwash]
    exact tagged_filled_iff (by rw [hwash]; rfl) rfl (by decide)
  rw [if_neg hwash]
  by_cases hisland : type = deviceTypeIsland
  · rw [if_pos hisland]
    exact tagged_filled_iff (by rw [hisland]; rfl) rfl (by decide)
  · rw [if_neg hisland]
    exact tagged_empty_iff hfrontage hentrance hwash hisland

end

theorem vcaMessagePrase_tagged_iff (msgbuf : CString) :
    (vcaMessagePrase env deviceListHead msgbuf serial .zero).2.Tagged ↔
      ∀ data ∈ env.cJSONParse msgbuf, (data.getObjectItem (Lib.ascii "CaptureResult")).isSome →
        FromOtherCamera deviceListHead serial
          (data.getObjectItemValueInt (Lib.ascii "channelID")) := by
  rw [vcaMessagePrase]
  cases hdata : env.cJSONParse msgbuf with
  | none => simp [tagged_zero]
  | some data =>
      simp only [Option.mem_some_iff, forall_eq']
      cases hresult : data.getObjectItem (Lib.ascii "CaptureResult") with
      | none => simp [tagged_zero]
      | some cJCaptureResult =>
          simp only [Option.isSome_some, forall_const]
          cases hcam : getDeviceType deviceListHead
              (data.getObjectItemValueInt (Lib.ascii "channelID")) serial with
          | none => exact iff_of_true tagged_zero (fromOtherCamera_of_none hcam)
          | some cam =>
              rw [fromOtherCamera_iff hcam, ← vcaUnion_spec]
              dsimp only
              split
              · next h =>
                  rw [h]
                  rfl
              · next u h =>
                  rw [h]
                  rfl

/-- The parsers of temperature and fire alarms fill in an alarm for every role. -/
theorem alarmDataPrase_tagged_iff (alarmType : DeviceAlarmType) (channel : Option ℤ) :
    (alarmDataPrase alarmType env deviceListHead channel serial .zero).2.Tagged ↔
      ∀ c ∈ channel, FromAlarmCamera deviceListHead serial c := by
  rw [alarmDataPrase.eq_def]
  cases channel with
  | none => simp [tagged_zero]
  | some channel =>
      simp only [Option.mem_some_iff, forall_eq', FromAlarmCamera]
      cases hcam : getDeviceType deviceListHead channel serial with
      | none => simp [tagged_zero]
      | some cam =>
          simp only [Option.mem_some_iff, forall_eq']
          exact memoryDataMember_eq_alarm_iff

/-! ## The callback -/

/-- **The type of a record names what is in it** exactly when a temperature or fire alarm comes from an
    alarm camera, and a capture from another one. -/
theorem recordTagged_iff (env : PraseEnv) (deviceListHead : List HKDVRParam)
    (sSerialNumber : Option CString) (alarm : CameraAlarm) :
    RecordTagged (gMessageCallback env deviceListHead sSerialNumber alarm) ↔
      ∀ serial ∈ sSerialNumber, TagSafe env deviceListHead serial alarm := by
  cases sSerialNumber with
  | none => simp [gMessageCallback, RecordTagged]
  | some serial =>
      simp only [Option.mem_some_iff, forall_eq', gMessageCallback]
      cases alarm with
      | itsPlateResult pAlarmInfo =>
          rw [RecordTagged, TagSafe]
          cases pAlarmInfo with
          | none => simp [itsPlatePrase, keyFalse]
          | some r =>
              simp only [Option.mem_some_iff, forall_eq']
              by_cases hno : (env.gb2312ToUtf8 r.sLicense).str.bytes = noPlate
              · simp [itsPlatePrase, hno, keyFalse]
              rw [forall_prop_of_true hno]
              cases hcam : getDeviceType deviceListHead r.byChanIndex serial with
              | none =>
                  have hfail : (itsPlatePrase env deviceListHead (some r) serial .zero).1 < 0 := by
                    simp [itsPlatePrase, hno, hcam, keyFalse]
                  simp [hfail, fromOtherCamera_of_none hcam]
              | some cam =>
                  obtain ⟨htag, hfail⟩ := itsPlatePrase_spec hno hcam
                  rw [fromOtherCamera_iff hcam]
                  split
                  · next h => exact iff_of_true (fun _ hx => by cases hx) (hfail h)
                  · simpa using htag
      | vcaAlarm pAlarmInfo =>
          rw [TagSafe]
          cases pAlarmInfo with
          | none => simp [vcaDataPrase, RecordTagged, Except.map, tagged_zero]
          | some text =>
              simp only [Option.mem_some_iff, forall_eq', vcaDataPrase]
              cases hhead : httpHeadPrase text with
              | error e => simp [RecordTagged, Except.map]
              | ok msgbuf =>
                  simp only [Except.ok.injEq, exists_eq_left', RecordTagged, Except.map,
                    Option.mem_some_iff, forall_eq']
                  exact vcaMessagePrase_tagged_iff msgbuf
      | thermometryAlarm channel =>
          simp only [RecordTagged, Option.mem_some_iff, forall_eq', TagSafe]
          exact alarmDataPrase_tagged_iff _ channel
      | firedetectionAlarm channel =>
          simp only [RecordTagged, Option.mem_some_iff, forall_eq', TagSafe]
          exact alarmDataPrase_tagged_iff _ channel
      | other => simp [RecordTagged, TagSafe]

/-- An NVR with serial number `A` and a camera for the entrance on channel `1`. -/
def entranceNvr : HKDVRParam :=
  { requestOf (letter 65) with
    HkSdkParam := fun _ => { HkDeviceParam.zero with
      sDeviceType := deviceTypeEntrance
      sChannel := 1 } }

/-- Nothing is parsed, nowhere and at no time. -/
def blankEnv : PraseEnv :=
  ⟨fun _ => none, fun _ => emptyArray _, fun _ => 0, fun _ => ⟨0, 0, 0, 0, 0, 0⟩, ⟨0, 0, 0, 0, 0, 0⟩,
    0, true⟩

/-- A temperature alarm of a camera at the entrance goes to the database as a vehicle. -/
theorem temperature_stored_as_vehicle :
    ¬ RecordTagged (gMessageCallback blankEnv [entranceNvr] (some (letter 65).str)
      (.thermometryAlarm (some 1))) := by
  intro h
  have hmember := h _ rfl
  exact absurd hmember (by decide)

end SmartPlat.HkSdkManage
