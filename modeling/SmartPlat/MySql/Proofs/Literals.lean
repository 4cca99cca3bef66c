import SmartPlat.Lib.SqlText
import SmartPlat.MySql.Statements

set_option autoImplicit false

/-! # What the server reads

Each statement is meant as the pieces below. The buffers are large enough for all of them, and the
server reads what is meant as long as the strings of the record are plain. -/

namespace SmartPlat.MySql

open SmartPlat.Lib SmartPlat.UsrManage

/-! ## What is meant -/

abbrev valuePart {n : ℕ} (field : CharArray n) : SqlPart := .value field.str.bytes

abbrev numberPart (n : Int32) : SqlPart := .value (decimalInt n.toInt)

/-- A call that writes a record. -/
inductive RecordCall where
  | addUsrInfo (info : UsrInfo)
  | setUsrInfo (info : UsrInfo)
  | addDevice (info : DeviceStorageInfo)
  | delDevice (deviceID : Field128)
  | addFrontageInfo (info : DeviceStreet)

/-- The statements it executes. -/
def RecordCall.statements : RecordCall → List Statement
  | .addUsrInfo info => mySqlCtrlAddUsrInfoText info
  | .setUsrInfo info => mySqlCtrlSetUsrInfoText info
  | .addDevice info => mySqlCtrlAddDeviceText info
  | .delDevice deviceID => mySqlCtrlDelDeviceText deviceID
  | .addFrontageInfo info => mySqlCtrlAddFrontageInfoText info

def selectUsrParts (info : UsrInfo) : List SqlPart :=
  [.text (ascii "select UsrId from usrinfo where UsrName="), valuePart info.usrname,
    .text (ascii " and CountryCode="), valuePart info.countrycode, .text (ascii ";")]

def insertUsrParts (info : UsrInfo) : List SqlPart :=
  [.text (ascii "insert into usrinfo(UsrName, UsrPasswd, UsrLevel, UsrId, CountryCode, CustomName) value("),
    valuePart info.usrname, .text (ascii ", "), valuePart info.passWord, .text (ascii ", "),
    .text (decimal info.userLevel.toNat), .text (ascii ", "),
    .text (decimalInt info.usrID.toInt32.toInt), .text (ascii ", "), valuePart info.countrycode,
    .text (ascii ", "), valuePart info.customname, .text (ascii ");")]

def updateUsrParts (info : UsrInfo) : List SqlPart :=
  [.text (ascii "update usrinfo set UsrPasswd = "), valuePart info.passWord,
    .text (ascii ", CustomName = "), valuePart info.customname,
    .text (ascii " where UsrName = "), valuePart info.usrname, .text (ascii ";")]

def insertDeviceParts (info : DeviceStorageInfo) : List SqlPart :=
  [.text (ascii "insert into deviceinfo(deviceid,devicestatus,devicenickname) value("),
    valuePart info.deviceID, .text (ascii ","), numberPart info.onlineStatus, .text (ascii ","),
    valuePart info.deviceName, .text (ascii ");")]

def deleteDeviceParts (deviceID : Field128) : List SqlPart :=
  [.text (ascii "delete from deviceinfo where deviceid = "), valuePart deviceID,
    .text (ascii ";")]

def insertFrontageParts (info : DeviceStreet) : List SqlPart :=
  [.text (ascii "insert into frontagedata(id,platecolor,vehicletype,date,planNo) value("),
    valuePart info.snapToken, .text (ascii ","), numberPart info.plateColor, .text (ascii ","),
    numberPart info.vehicleType, .text (ascii ","), .value (captureDate info.time),
    .text (ascii ","), valuePart info.plateNo, .text (ascii ");")]

/-- What they are meant as. -/
def RecordCall.parts : RecordCall → List (List SqlPart)
  | .addUsrInfo info =>
      if info.name.strlen = 0 then [] else [selectUsrParts info, insertUsrParts info]
  | .setUsrInfo info => if info.name.strlen = 0 then [] else [updateUsrParts info]
  | .addDevice info => if info.deviceID.str.strlen = 0 then [] else [insertDeviceParts info]
  | .delDevice deviceID => [deleteDeviceParts deviceID]
  | .addFrontageInfo info => [insertFrontageParts info]

/-- The strings of the record that it writes; none when a name is empty, and nothing is executed. -/
def RecordCall.strings : RecordCall → List CString
  | .addUsrInfo info =>
      if info.name.strlen = 0 then []
      else [info.usrname.str, info.passWord.str, info.countrycode.str, info.customname.str]
  | .setUsrInfo info =>
      if info.name.strlen = 0 then []
      else [info.passWord.str, info.customname.str, info.usrname.str]
  | .addDevice info =>
      if info.deviceID.str.strlen = 0 then [] else [info.deviceID.str, info.deviceName.str]
  | .delDevice deviceID => [deviceID.str]
  | .addFrontageInfo info => [info.snapToken.str, info.plateNo.str]

/-- The statement fits its buffer, and the server reads it as it is meant: one statement of that
    shape, with these values. -/
def ReadAsMeant (statement : Statement) (parts : List SqlPart) : Prop :=
  statement.text.length < statement.size ∧ lexSql statement.text = some (tokens parts)

/-! ## Formats -/

theorem printf_quoted (v fmt : List UInt8) (args : List PrintfArg) :
    printf (ascii "'%s'" ++ fmt) (.str v :: args) = quote :: (v ++ quote :: printf fmt args) := rfl

theorem printf_quotedInt (n : ℤ) (fmt : List UInt8) (args : List PrintfArg) :
    printf (ascii "'%d'" ++ fmt) (.int n :: args) =
      quote :: (decimalInt n ++ quote :: printf fmt args) := rfl

theorem printf_nil (args : List PrintfArg) : printf (ascii "") args = [] := rfl

theorem printf_selectUsr (info : UsrInfo) :
    printf (ascii "select UsrId from %s where UsrName='%s' and CountryCode='%s';")
      [.str mysqlTableUsrinfo, strArg info.usrname, strArg info.countrycode] =
        render (selectUsrParts info) := by
  have hfmt : "select UsrId from %s where UsrName='%s' and CountryCode='%s';" =
      "select UsrId from " ++ ("%s" ++ (" where UsrName=" ++ ("'%s'" ++ (" and CountryCode=" ++
        ("'%s'" ++ (";" ++ "")))))) := by
    simp only [String.reduceAppend]
  have htext : "select UsrId from usrinfo where UsrName=" =
      "select UsrId from " ++ ("usrinfo" ++ " where UsrName=") := by
    simp only [String.reduceAppend]
  rw [hfmt, selectUsrParts, htext]
  simp (disch := apply notMem_ascii; decide) only [ascii_append, printf_append, printf_str, printf_quoted, printf_nil,
    render, List.append_assoc]
  rfl

theorem printf_insertUsr (info : UsrInfo) :
    printf (ascii "insert into %s(UsrName, UsrPasswd, UsrLevel, UsrId, CountryCode, CustomName) value('%s', '%s', %d, %d, '%s', '%s');")
      [.str mysqlTableUsrinfo, strArg info.usrname, strArg info.passWord,
        .int info.userLevel.toNat, .int info.usrID.toInt32.toInt, strArg info.countrycode,
        strArg info.customname] = render (insertUsrParts info) := by
  have hfmt : "insert into %s(UsrName, UsrPasswd, UsrLevel, UsrId, CountryCode, CustomName) value('%s', '%s', %d, %d, '%s', '%s');" =
      "insert into " ++ ("%s" ++ ("(UsrName, UsrPasswd, UsrLevel, UsrId, CountryCode, CustomName) value(" ++
        ("'%s'" ++ (", " ++ ("'%s'" ++ (", " ++ ("%d" ++ (", " ++ ("%d" ++ (", " ++ ("'%s'" ++ (", " ++
          ("'%s'" ++ (");" ++ "")))))))))))))) := by
    simp only [String.reduceAppend]
  have htext : "insert into usrinfo(UsrName, UsrPasswd, UsrLevel, UsrId, CountryCode, CustomName) value(" =
      "insert into " ++ ("usrinfo" ++
        "(UsrName, UsrPasswd, UsrLevel, UsrId, CountryCode, CustomName) value(") := by
    simp only [String.reduceAppend]
  rw [hfmt, insertUsrParts, htext]
  simp (disch := apply notMem_ascii; decide) only [ascii_append, printf_append, printf_str, printf_int, printf_quoted,
    printf_nil, render, List.append_assoc]
  rfl

theorem printf_updateUsr (info : UsrInfo) :
    printf (ascii "update %s set UsrPasswd = '%s', CustomName = '%s' where UsrName = '%s';")
      [.str mysqlTableUsrinfo, strArg info.passWord, strArg info.customname,
        strArg info.usrname] = render (updateUsrParts info) := by
  have hfmt : "update %s set UsrPasswd = '%s', CustomName = '%s' where UsrName = '%s';" =
      "update " ++ ("%s" ++ (" set UsrPasswd = " ++ ("'%s'" ++ (", CustomName = " ++ ("'%s'" ++
        (" where UsrName = " ++ ("'%s'" ++ (";" ++ "")))))))) := by
    simp only [String.reduceAppend]
  have htext : "update usrinfo set UsrPasswd = " =
      "update " ++ ("usrinfo" ++ " set UsrPasswd = ") := by
    simp only [String.reduceAppend]
  rw [hfmt, updateUsrParts, htext]
  simp (disch := apply notMem_ascii; decide) only [ascii_append, printf_append, printf_str, printf_quoted, printf_nil,
    render, List.append_assoc]
  rfl

theorem printf_insertDevice (info : DeviceStorageInfo) :
    printf (ascii "insert into %s(deviceid,devicestatus,devicenickname) value('%s','%d','%s');")
      [.str mysqlTableCamera, strArg info.deviceID, .int info.onlineStatus.toInt,
        strArg info.deviceName] = render (insertDeviceParts info) := by
  have hfmt : "insert into %s(deviceid,devicestatus,devicenickname) value('%s','%d','%s');" =
      "insert into " ++ ("%s" ++ ("(deviceid,devicestatus,devicenickname) value(" ++ ("'%s'" ++
        ("," ++ ("'%d'" ++ ("," ++ ("'%s'" ++ (");" ++ "")))))))) := by
    simp only [String.reduceAppend]
  have htext : "insert into deviceinfo(deviceid,devicestatus,devicenickname) value(" =
      "insert into " ++ ("deviceinfo" ++ "(deviceid,devicestatus,devicenickname) value(") := by
    simp only [String.reduceAppend]
  rw [hfmt, insertDeviceParts, htext]
  simp (disch := apply notMem_ascii; decide) only [ascii_append, printf_append, printf_str, printf_quoted,
    printf_quotedInt, printf_nil, render, List.append_assoc]
  rfl

theorem printf_deleteDevice (deviceID : Field128) :
    printf (ascii "delete from %s where deviceid = '%s';")
      [.str mysqlTableCamera, strArg deviceID] = render (deleteDeviceParts deviceID) := by
  have hfmt : "delete from %s where deviceid = '%s';" =
      "delete from " ++ ("%s" ++ (" where deviceid = " ++ ("'%s'" ++ (";" ++ "")))) := by
    simp only [String.reduceAppend]
  have htext : "delete from deviceinfo where deviceid = " =
      "delete from " ++ ("deviceinfo" ++ " where deviceid = ") := by
    simp only [String.reduceAppend]
  rw [hfmt, deleteDeviceParts, htext]
  simp (disch := apply notMem_ascii; decide) only [ascii_append, printf_append, printf_str, printf_quoted, printf_nil,
    render, List.append_assoc]
  rfl

theorem printf_insertFrontage (info : DeviceStreet) :
    printf (ascii "insert into %s(id,platecolor,vehicletype,date,planNo) value('%s','%d','%d','%s','%s');")
      [.str mysqlTableFrontage, strArg info.snapToken, .int info.plateColor.toInt,
        .int info.vehicleType.toInt, .str (captureDate info.time), strArg info.plateNo] =
          render (insertFrontageParts info) := by
  have hfmt : "insert into %s(id,platecolor,vehicletype,date,planNo) value('%s','%d','%d','%s','%s');" =
      "insert into " ++ ("%s" ++ ("(id,platecolor,vehicletype,date,planNo) value(" ++ ("'%s'" ++
        ("," ++ ("'%d'" ++ ("," ++ ("'%d'" ++ ("," ++ ("'%s'" ++ ("," ++ ("'%s'" ++
          (");" ++ "")))))))))))) := by
    simp only [String.reduceAppend]
  have htext : "insert into frontagedata(id,platecolor,vehicletype,date,planNo) value(" =
      "insert into " ++ ("frontagedata" ++ "(id,platecolor,vehicletype,date,planNo) value(") := by
    simp only [String.reduceAppend]
  rw [hfmt, insertFrontageParts, htext]
  simp (disch := apply notMem_ascii; decide) only [ascii_append, printf_append, printf_str, printf_quoted,
    printf_quotedInt, printf_nil, render, List.append_assoc]
  rfl

theorem printf_captureDate (time : TimeYMD) :
    printf (ascii "%04d-%02d-%02d %02d:%02d:%02d")
      [.int time.year, .int time.month, .int time.day, .int time.hour, .int time.min,
        .int time.sec] =
      zeroPadded 4 time.year ++ 45 :: (zeroPadded 2 time.month ++ 45 :: (zeroPadded 2 time.day ++
        32 :: (zeroPadded 2 time.hour ++ 58 :: (zeroPadded 2 time.min ++
          58 :: zeroPadded 2 time.sec)))) := by
  simp [printf, ascii]

/-! ## Lengths -/

theorem length_field {n : ℕ} (field : CharArray n) : field.str.bytes.length ≤ n := field.fits

theorem length_level (level : UsrLevel) : (decimal level.toNat).length ≤ 11 :=
  length_decimalInt_le (n := level.toNat) (by cases level <;> decide)

theorem length_captureDate (time : TimeYMD) : (captureDate time).length ≤ 127 :=
  List.length_take_le _ _

theorem length_selectUsr (info : UsrInfo) : (render (selectUsrParts info)).length < 1024 := by
  have husrname := length_field info.usrname
  have hcountry := length_field info.countrycode
  simp only [dfMaxlenUsrname, dfMaxlenPasswd] at husrname hcountry
  simp [render, selectUsrParts, length_ascii]
  omega

theorem length_insertUsr (info : UsrInfo) : (render (insertUsrParts info)).length < 1024 := by
  have husrname := length_field info.usrname
  have hpasswd := length_field info.passWord
  have hcountry := length_field info.countrycode
  have hcustom := length_field info.customname
  have hlevel := length_level info.userLevel
  have hid := length_number info.usrID.toInt32
  simp only [dfMaxlenUsrname, dfMaxlenPasswd] at husrname hpasswd hcountry hcustom
  simp [render, insertUsrParts, length_ascii]
  omega

theorem length_updateUsr (info : UsrInfo) : (render (updateUsrParts info)).length < 512 := by
  have husrname := length_field info.usrname
  have hpasswd := length_field info.passWord
  have hcustom := length_field info.customname
  simp only [dfMaxlenUsrname, dfMaxlenPasswd] at husrname hpasswd hcustom
  simp [render, updateUsrParts, length_ascii]
  omega

theorem length_insertDevice (info : DeviceStorageInfo) :
    (render (insertDeviceParts info)).length < 512 := by
  have hid := length_field info.deviceID
  have hname := length_field info.deviceName
  have hstatus := length_number info.onlineStatus
  simp [render, insertDeviceParts, length_ascii]
  omega

theorem length_deleteDevice (deviceID : Field128) :
    (render (deleteDeviceParts deviceID)).length < 512 := by
  have hid := length_field deviceID
  simp [render, deleteDeviceParts, length_ascii]
  omega

theorem length_insertFrontage (info : DeviceStreet) :
    (render (insertFrontageParts info)).length < 512 := by
  have htoken := length_field info.snapToken
  have hplate := length_field info.plateNo
  have hcolor := length_number info.plateColor
  have htype := length_number info.vehicleType
  have hdate := length_captureDate info.time
  simp [render, insertFrontageParts, length_ascii]
  omega

/-! ## Reading -/

theorem numberByte_plain {b : UInt8} (h : NumberByte b) : b ≠ quote ∧ b ≠ backslash := by
  rcases h with rfl | ⟨hle, hge⟩
  · decide
  · constructor <;> rintro rfl
    · exact absurd hle (by decide)
    · exact absurd hge (by decide)

theorem quote_not_mem_decimal (n : ℕ) : quote ∉ decimal n :=
  fun h => (numberByte_plain (numberByte_decimal h)).1 rfl

theorem quote_not_mem_decimalInt (n : ℤ) : quote ∉ decimalInt n :=
  fun h => (numberByte_plain (numberByte_decimalInt h)).1 rfl

theorem plain_number (n : ℤ) : Plain (decimalInt n) :=
  plain_of_forall fun _ hb => numberByte_plain (numberByte_decimalInt hb)

theorem plain_captureDate (time : TimeYMD) : Plain (captureDate time) := by
  refine plain_of_forall fun b hb => ?_
  have hmem := List.mem_of_mem_take hb
  rw [printf_captureDate] at hmem
  simp only [List.mem_append, List.mem_cons] at hmem
  rcases hmem with h | rfl | h | rfl | h | rfl | h | rfl | h | rfl | h <;>
    first | exact numberByte_plain (numberByte_zeroPadded h) | decide

theorem readAsMeant_iff {size : ℕ} {parts : List SqlPart} (hw : WellFormed parts)
    (hfit : (render parts).length < size) :
    ReadAsMeant ⟨size, render parts⟩ parts ↔ ∀ v, .value v ∈ parts → Plain v := by
  rw [ReadAsMeant, lex_render_iff hw, and_iff_right hfit]

theorem wellFormed_nil : WellFormed [] := trivial

theorem wellFormed_text {bytes : List UInt8} (h : quote ∉ bytes) (ps : List SqlPart) :
    WellFormed (.text bytes :: ps) ↔ WellFormed ps := and_iff_right h

/-- A value with text behind it. -/
theorem wellFormed_value {bytes : List UInt8} (h : quote ∉ bytes) (hne : bytes ≠ []) (v : List UInt8)
    (ps : List SqlPart) : WellFormed (.value v :: .text bytes :: ps) ↔ WellFormed ps := by
  obtain ⟨b, bytes, rfl⟩ := List.exists_cons_of_ne_nil hne
  have hb : b ≠ quote := fun heq => h (heq ▸ List.mem_cons_self)
  rw [WellFormed, render, List.cons_append, List.head?_cons, wellFormed_text h, and_iff_right_iff_imp]
  exact fun _ heq => hb (Option.some.inj heq)

theorem selectUsr_iff (info : UsrInfo) :
    ReadAsMeant ⟨1024, render (selectUsrParts info)⟩ (selectUsrParts info) ↔
      Plain info.usrname.str.bytes ∧ Plain info.countrycode.str.bytes := by
  rw [readAsMeant_iff ?_ (length_selectUsr info)]
  · simp [selectUsrParts]
  · simp (disch := first | (apply notMem_ascii; decide) | decide) only [selectUsrParts, wellFormed_text, wellFormed_value, wellFormed_nil]

theorem insertUsr_iff (info : UsrInfo) :
    ReadAsMeant ⟨1024, render (insertUsrParts info)⟩ (insertUsrParts info) ↔
      Plain info.usrname.str.bytes ∧ Plain info.passWord.str.bytes ∧
        Plain info.countrycode.str.bytes ∧ Plain info.customname.str.bytes := by
  rw [readAsMeant_iff ?_ (length_insertUsr info)]
  · simp [insertUsrParts]
  · have hlevel := quote_not_mem_decimal info.userLevel.toNat
    have hid := quote_not_mem_decimalInt info.usrID.toInt32.toInt
    simp (disch := first | (apply notMem_ascii; decide) | decide) only [insertUsrParts, wellFormed_text, wellFormed_value,
      wellFormed_text hlevel, wellFormed_text hid, wellFormed_nil]

theorem updateUsr_iff (info : UsrInfo) :
    ReadAsMeant ⟨512, render (updateUsrParts info)⟩ (updateUsrParts info) ↔
      Plain info.passWord.str.bytes ∧ Plain info.customname.str.bytes ∧
        Plain info.usrname.str.bytes := by
  rw [readAsMeant_iff ?_ (length_updateUsr info)]
  · simp [updateUsrParts]
  · simp (disch := first | (apply notMem_ascii; decide) | decide) only [updateUsrParts, wellFormed_text, wellFormed_value, wellFormed_nil]

theorem insertDevice_iff (info : DeviceStorageInfo) :
    ReadAsMeant ⟨512, render (insertDeviceParts info)⟩ (insertDeviceParts info) ↔
      Plain info.deviceID.str.bytes ∧ Plain info.deviceName.str.bytes := by
  rw [readAsMeant_iff ?_ (length_insertDevice info)]
  · simp [insertDeviceParts, plain_number]
  · simp (disch := first | (apply notMem_ascii; decide) | decide) only [insertDeviceParts, wellFormed_text, wellFormed_value, wellFormed_nil]

theorem deleteDevice_iff (deviceID : Field128) :
    ReadAsMeant ⟨512, render (deleteDeviceParts deviceID)⟩ (deleteDeviceParts deviceID) ↔
      Plain deviceID.str.bytes := by
  rw [readAsMeant_iff ?_ (length_deleteDevice deviceID)]
  · simp [deleteDeviceParts]
  · simp (disch := first | (apply notMem_ascii; decide) | decide) only [deleteDeviceParts, wellFormed_text, wellFormed_value, wellFormed_nil]

theorem insertFrontage_iff (info : DeviceStreet) :
    ReadAsMeant ⟨512, render (insertFrontageParts info)⟩ (insertFrontageParts info) ↔
      Plain info.snapToken.str.bytes ∧ Plain info.plateNo.str.bytes := by
  rw [readAsMeant_iff ?_ (length_insertFrontage info)]
  · simp [insertFrontageParts, plain_number, plain_captureDate]
  · simp (disch := first | (apply notMem_ascii; decide) | decide) only [insertFrontageParts, wellFormed_text, wellFormed_value, wellFormed_nil]

/-! ## Records -/

theorem mySqlCtrlAddUsrInfoText_eq (info : UsrInfo) :
    mySqlCtrlAddUsrInfoText info = if info.name.strlen = 0 then [] else
      [⟨1024, render (selectUsrParts info)⟩, ⟨1024, render (insertUsrParts info)⟩] := by
  have hselect := length_selectUsr info
  have hinsert := length_insertUsr info
  rw [← printf_selectUsr] at hselect ⊢
  rw [← printf_insertUsr] at hinsert ⊢
  rw [← snprintfBytes_eq hselect, ← snprintfBytes_eq hinsert]
  rfl

/-- **SQL text integrity.** The statements of a call fit their buffers, and the server reads each as
    it is meant, exactly when every string the call writes is plain. -/
theorem sqlText_integrity (c : RecordCall) :
    List.Forall₂ ReadAsMeant c.statements c.parts ↔ ∀ s ∈ c.strings, Plain s.bytes := by
  cases c with
  | addUsrInfo info =>
      simp only [RecordCall.statements, RecordCall.parts, RecordCall.strings,
        mySqlCtrlAddUsrInfoText_eq]
      split
      · simp
      · simp only [List.forall₂_cons, List.forall₂_nil_left_iff, selectUsr_iff, insertUsr_iff,
          List.forall_mem_cons, List.not_mem_nil, false_imp_iff, implies_true]
        tauto
  | setUsrInfo info =>
      simp only [RecordCall.statements, RecordCall.parts, RecordCall.strings, mySqlCtrlSetUsrInfoText]
      split
      · simp
      · rw [printf_updateUsr]
        simp [updateUsr_iff]
  | addDevice info =>
      simp only [RecordCall.statements, RecordCall.parts, RecordCall.strings, mySqlCtrlAddDeviceText]
      split
      · simp
      · rw [printf_insertDevice]
        simp [insertDevice_iff]
  | delDevice deviceID =>
      simp only [RecordCall.statements, RecordCall.parts, RecordCall.strings, mySqlCtrlDelDeviceText]
      rw [printf_deleteDevice]
      simp [deleteDevice_iff]
  | addFrontageInfo info =>
      simp only [RecordCall.statements, RecordCall.parts, RecordCall.strings,
        mySqlCtrlAddFrontageInfoText]
      rw [printf_insertFrontage]
      simp [insertFrontage_iff]

/-- The device id `' or '1'='1`: the statement deletes every row of the table. -/
def allDevices : Field128 :=
  ⟨⟨ascii "' or '1'='1", by decide⟩, by decide⟩

theorem delete_all_devices :
    ¬ List.Forall₂ ReadAsMeant (RecordCall.delDevice allDevices).statements
        (RecordCall.delDevice allDevices).parts ∧
      ((RecordCall.delDevice allDevices).statements.map fun st => lexSql st.text) =
        [some ((ascii "delete from deviceinfo where deviceid = ").map .raw ++ [.str []] ++
          (ascii " or ").map .raw ++ [.str (ascii "1")] ++ (ascii "=").map .raw ++
          [.str (ascii "1")] ++ (ascii ";").map .raw)] := by
  refine ⟨fun h => ?_, by decide +kernel⟩
  cases h with
  | cons h _ => exact absurd h.2 (by decide +kernel)

end SmartPlat.MySql
