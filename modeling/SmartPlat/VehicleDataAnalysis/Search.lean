import SmartPlat.VehicleDataAnalysis.Entrance
import SmartPlat.Lib.SqlText
import SmartPlat.Lib.GroupBy
import Mathlib.Data.List.Dedup

set_option autoImplicit false

/-! # Searches in the entrance table (`mysqlctrl.c`, `vehicledataanalysis.c`)

The functions of the `SerchType` family write one statement for each combination of filters, once for
the total and once for the pages. A statement is modelled by the conditions of its `where`; a text that
does not parse selects nothing, because the server refuses it and the callers read an error as zero
rows. -/

namespace SmartPlat.VehicleDataAnalysis

open SmartPlat.Lib SmartPlat.MySql

/-! ## Requests -/

/-- `VehicleSearchType_E`, with a field for each bit. -/
structure VehicleSearchType where
  terr : Bool
  vehicle : Bool
  fuzzy : Bool
  increment : Bool
  losses : Bool
  deriving DecidableEq, Repr

/-- A text that is read from the literal it is pasted into as it is. With a quote in it the statement
    would be another one. -/
structure FuzzyStr where
  text : String
  plain : PlainText text
  deriving DecidableEq

theorem plainText_empty : PlainText "" := by decide

structure VehicleSearchInfo where
  vehicleType : ℤ
  type : VehicleSearchType
  vehicleTerr : ℤ
  fuzzyStr : FuzzyStr
  deriving DecidableEq

/-- A month as `%04d-%02d` writes it. -/
structure YearMonth where
  year : ℤ
  month : ℤ
  deriving DecidableEq, Repr

def monthOf (t : TimeYMD) : YearMonth := ⟨t.year, t.month⟩

/-- The month before the one of `start`. -/
def monthBefore (start : TimeYMD) : YearMonth :=
  if start.month = 1 then ⟨start.year - 1, 12⟩ else ⟨start.year, start.month - 1⟩

/-- An earlier month. -/
def YearMonth.Before (m m' : YearMonth) : Prop :=
  m.year < m'.year ∨ m.year = m'.year ∧ m.month < m'.month

instance (m m' : YearMonth) : Decidable (m.Before m') := inferInstanceAs (Decidable (_ ∨ _ ∧ _))

theorem monthBefore_before (start : TimeYMD) : (monthBefore start).Before (monthOf start) := by
  unfold monthBefore monthOf YearMonth.Before
  split
  · exact .inl (Int.sub_one_lt_of_le (Int.le_refl _))
  · exact .inr ⟨rfl, Int.sub_one_lt_of_le (Int.le_refl _)⟩

/-- A time in an earlier month is earlier. -/
theorem datetime_lt_of_before {s u : TimeYMD} (hs : s.Valid)
    (h : (monthOf s).Before (monthOf u)) (hu : u.Valid) : s.datetime < u.datetime := by
  have hsec := TimeYMD.secOfDay_lt hs
  have hday := daysInMonth_le s.year s.month
  obtain ⟨⟨-, hm, -, hd⟩, -⟩ := hs
  obtain ⟨⟨hm', -, -, -⟩, -⟩ := hu
  simp only [YearMonth.Before, monthOf] at h
  unfold TimeYMD.datetime
  omega

/-! ## Conditions -/

/-- The format that `DATE_FORMAT` gets. -/
inductive DateFormat where
  | yearMonth
  /-- `%Y-%m` with single percent signs: `sprintf` passes on `%Y`, which it does not know, and writes
      the message of `errno` for `%m`. -/
  | yearMessage
  deriving DecidableEq, Repr

/-- `DATE_FORMAT(date, format) = 'm'`. No message is the number of a month. -/
def DateFormat.agrees : DateFormat → TimeYMD → YearMonth → Bool
  | .yearMonth, date, m => monthOf date = m
  | .yearMessage, _, _ => false

inductive Cond where
  /-- `startdate < 'endDate' and startdate > 'startDate'` -/
  | window (startDate endDate : TimeYMD)
  | area (vehicleTerr : ℤ)
  | vehicletype (vehicleType : ℤ)
  /-- `concat(plateNo) like '%fuzzyStr%'` -/
  | plateNo (fuzzyStr : FuzzyStr)
  /-- `DATE_FORMAT(startdate, '%Y-%m') = 'm'` -/
  | month (m : YearMonth)
  /-- `not EXISTS(SELECT tbb.* … tb1.plateNo = tbb.plateNo AND tb1.startdate > tbb.startdate AND
      DATE_FORMAT(tbb.startdate, format) = 'm')` -/
  | notBefore (format : DateFormat) (m : YearMonth)
  deriving DecidableEq

/-- `concat(plateNo) like '%fuzzyStr%'` on a row. -/
def FuzzyStr.like (f : FuzzyStr) (plateNo : String) : Bool :=
  likeContains f.text.toList plateNo.toList

def Cond.holds [Server] (t : EntranceTable) (r : DeviceEntrance) : Cond → Bool
  | .window startDate endDate => inWindow startDate endDate r.vehicleStart
  | .area vehicleTerr => r.vehicleTerr = vehicleTerr
  | .vehicletype vehicleType => r.vehicleType = vehicleType
  | .plateNo fuzzyStr => fuzzyStr.like r.plateNo
  | .month m => monthOf r.vehicleStart = m
  | .notBefore format m => !t.any fun s =>
      r.plateNo = s.plateNo && r.vehicleStart.datetime > s.vehicleStart.datetime &&
        format.agrees s.vehicleStart m

/-- The rows a statement is about; `none` is a text that does not parse. -/
def rowsWhere [Server] (conds : Option (List Cond)) (t : EntranceTable) : EntranceTable :=
  match conds with
  | none => []
  | some conds => t.filter fun r => conds.all fun c => c.holds t r

theorem mem_rowsWhere [Server] {conds : List Cond} {t : EntranceTable} {r : DeviceEntrance} :
    r ∈ rowsWhere (some conds) t ↔ r ∈ t ∧ ∀ c ∈ conds, c.holds t r = true := by
  rw [rowsWhere, List.mem_filter, List.all_eq_true]

/-! ## Statements -/

/-- What the statements of `MySqlCtrlGetEntranceListSumBySerchType` and
    `MySqlCtrlGetEntranceListBySerchType` ask for next to the window. The case of vehicle type and text
    asks for the area and the vehicle type. -/
def serchTypeFilters (info : VehicleSearchInfo) : List Cond :=
  match info.type with
  | ⟨true, false, false, false, false⟩ => [.area info.vehicleTerr]
  | ⟨false, true, false, false, false⟩ => [.vehicletype info.vehicleType]
  | ⟨false, false, true, false, false⟩ => [.plateNo info.fuzzyStr]
  | ⟨true, true, false, false, false⟩ => [.area info.vehicleTerr, .vehicletype info.vehicleType]
  | ⟨true, false, true, false, false⟩ => [.area info.vehicleTerr, .plateNo info.fuzzyStr]
  | ⟨true, true, true, false, false⟩ =>
      [.area info.vehicleTerr, .plateNo info.fuzzyStr, .vehicletype info.vehicleType]
  | ⟨false, true, true, false, false⟩ => [.area info.vehicleTerr, .vehicletype info.vehicleType]
  | _ => []

/-- Their texts, which the second versions repeat. -/
def serchTypeConds (startDate endDate : TimeYMD) (info : VehicleSearchInfo) : List Cond :=
  .window startDate endDate :: serchTypeFilters info

/-- The texts of the second versions, which differ in the end of the window, in the format of the
    losses and in the text of the first three filters together. -/
def serchType2Conds (startTime endTime endDate : TimeYMD) (format : DateFormat)
    (firstThree : Option (List Cond)) (info : VehicleSearchInfo) : Option (List Cond) :=
  let increment := [Cond.month (monthOf endTime), .notBefore .yearMonth (monthBefore startTime)]
  let losses := [Cond.month (monthBefore startTime), .notBefore format (monthOf endTime)]
  match info.type with
  | ⟨true, true, true, false, false⟩ => firstThree
  | ⟨false, false, false, true, false⟩ => some increment
  | ⟨false, true, false, true, false⟩ => some (increment ++ [.vehicletype info.vehicleType])
  | ⟨false, false, true, true, false⟩ => some (increment ++ [.plateNo info.fuzzyStr])
  | ⟨false, true, true, true, false⟩ =>
      some (increment ++ [.plateNo info.fuzzyStr, .vehicletype info.vehicleType])
  | ⟨false, false, false, false, true⟩ => some losses
  | ⟨false, true, false, false, true⟩ => some (losses ++ [.vehicletype info.vehicleType])
  | ⟨false, false, true, false, true⟩ => some (losses ++ [.plateNo info.fuzzyStr])
  -- `nd concat(plateNo) like`
  | ⟨false, true, true, false, true⟩ => none
  | _ => some (serchTypeConds startTime endDate info)

/-- The texts of `MySqlCtrlGetEntranceListSumBySerchType2`. With the first three filters
    `select count(1) from(` is opened twice and closed once. -/
def sumBySerchType2Conds (startTime endTime : TimeYMD) (info : VehicleSearchInfo) :
    Option (List Cond) :=
  serchType2Conds startTime endTime endTime .yearMessage none info

/-- The `endDate` of `MySqlCtrlGetEntranceListBySerchType2`: the year stands for the hour and the month
    for the minute. -/
def listEndDate (endTime : TimeYMD) : TimeYMD :=
  { endTime with hour := endTime.year, min := endTime.month }

/-- The texts of `MySqlCtrlGetEntranceListBySerchType2`. -/
def listBySerchType2Conds (startTime endTime : TimeYMD) (info : VehicleSearchInfo) :
    Option (List Cond) :=
  serchType2Conds startTime endTime (listEndDate endTime) .yearMonth
    (some (serchTypeConds startTime (listEndDate endTime) info)) info

/-! ## Totals and pages -/

/-- `limit offset,num`; a negative number does not parse. -/
def limit {α : Type} (offset num : ℤ) (result : List α) : List α :=
  if offset < 0 ∨ num < 0 then [] else (result.drop offset.toNat).take num.toNat

/-- `MySqlCtrlGetEntranceListSumBySerchType` -/
def mySqlCtrlGetEntranceListSumBySerchType [Server] (t : EntranceTable) (startTime endTime : TimeYMD)
    (info : VehicleSearchInfo) : ℕ :=
  (rowsWhere (some (serchTypeConds startTime endTime info)) t).length

/-- The total counts the rows that the conditions let through. -/
theorem mySqlCtrlGetEntranceListSumBySerchType_eq [Server] {startTime endTime : TimeYMD}
    {info : VehicleSearchInfo} {p : DeviceEntrance → Bool} (t : EntranceTable)
    (h : ∀ r, ((serchTypeConds startTime endTime info).all fun c => c.holds t r) = p r) :
    mySqlCtrlGetEntranceListSumBySerchType t startTime endTime info = t.countP p := by
  rw [mySqlCtrlGetEntranceListSumBySerchType, rowsWhere, ← List.countP_eq_length_filter]
  exact List.countP_congr fun r _ => by rw [h r]

/-- `order by startdate desc`: the rows in one of the orders the server may choose. -/
def Sorted (rows result : List DeviceEntrance) : Prop :=
  result.Perm rows ∧
    result.Pairwise fun r s => s.vehicleStart.datetime ≤ r.vehicleStart.datetime

/-- `MySqlCtrlGetEntranceListBySerchType`, on the rows in the server's order. -/
def mySqlCtrlGetEntranceListBySerchType (startPage num : ℤ) (result : List DeviceEntrance) :
    List DeviceEntrance :=
  limit ((startPage - 1) * num) num result

/-- `MySqlCtrlGetEntranceListSumBySerchType2`: the number of groups. -/
def mySqlCtrlGetEntranceListSumBySerchType2 [Server] (t : EntranceTable) (startTime endTime : TimeYMD)
    (info : VehicleSearchInfo) : ℕ :=
  ((rowsWhere (sumBySerchType2Conds startTime endTime info) t).map
    DeviceEntrance.plateNo).dedup.length

/-- What `MySqlCtrlGetEntranceListBySerchType2` fills in of a `DeviceEntrance_T`; `platecolor` goes to
    `vehicleColor`. -/
structure EntranceGroup where
  stay : ℕ
  plateNo : String
  vehicleStart : TimeYMD
  vehicleTerr : ℤ
  vehicleColor : ℤ
  vehicleType : ℤ
  vehicleImagePath : String
  snapToken : String
  deriving DecidableEq, Repr

/-- The group of a plate. Each `any_value` is the value of one of its rows. -/
structure IsGroup (rows : List DeviceEntrance) (g : EntranceGroup) : Prop where
  stay : g.stay = rows.countP fun r => r.plateNo = g.plateNo
  vehicleStart : maxStartdate g.plateNo rows = some g.vehicleStart
  vehicleTerr : ∃ r ∈ rows, r.plateNo = g.plateNo ∧ r.vehicleTerr = g.vehicleTerr
  vehicleColor : ∃ r ∈ rows, r.plateNo = g.plateNo ∧ r.plateColor = g.vehicleColor
  vehicleType : ∃ r ∈ rows, r.plateNo = g.plateNo ∧ r.vehicleType = g.vehicleType
  vehicleImagePath : ∃ r ∈ rows, r.plateNo = g.plateNo ∧ r.vehicleImagePath = g.vehicleImagePath
  snapToken : ∃ r ∈ rows, r.plateNo = g.plateNo ∧ r.snapToken = g.snapToken

/-- `GROUP BY plateNo ORDER BY count DESC`: the groups in one of the orders the server may choose. -/
structure Grouped (rows : List DeviceEntrance) (result : List EntranceGroup) : Prop where
  groups : ∀ g ∈ result, IsGroup rows g
  plates : (result.map EntranceGroup.plateNo).Perm (rows.map DeviceEntrance.plateNo).dedup
  sorted : result.Pairwise fun g h => h.stay ≤ g.stay

/-- `MySqlCtrlGetEntranceListBySerchType2`, on the groups in the server's order. -/
def mySqlCtrlGetEntranceListBySerchType2 (startPage num : ℤ) (result : List EntranceGroup) :
    List EntranceGroup :=
  limit ((startPage - 1) * num) num result

/-- The pages of a list function one after another, up to one that is not full. -/
def allPages {α : Type} (list : ℤ → ℤ → List α → List α) (num : ℕ) (result : List α) : List α :=
  (List.range (result.length / num + 1)).flatMap fun i : ℕ => list (i + 1) num result

/-! ## Long stays -/

inductive ResidenceType where
  | none
  | min1
  | min2
  | min3
  deriving DecidableEq, Repr

/-- `MySqlCtrlGetEntranceResidenceByTime`; for `RESIDENCE_NONE` the statement is empty. -/
def mySqlCtrlGetEntranceResidenceByTime [Server] (t : EntranceTable) (startTime endTime : TimeYMD)
    (type : ResidenceType) : ℕ :=
  let count (p : ℤ → Bool) :=
    t.countP fun r => inWindow startTime endTime r.vehicleStart && p r.staytime
  match type with
  | .none => 0
  | .min1 => count fun stay => stay ≤ 5 * 60
  | .min2 => count fun stay => stay > 5 * 60 && stay < 20 * 60
  | .min3 => count fun stay => stay ≥ 20 * 60

/-- The rows `MySqlCtrlGetEntranceResidenceListInfo` selects, in no particular order. -/
def residenceRows [Server] (t : EntranceTable) (startTime endTime : TimeYMD) : EntranceTable :=
  t.filter fun r => r.staytime > 20 * 60 && inWindow startTime endTime r.vehicleStart

/-- `MySqlCtrlGetEntranceResidenceListInfo`, on the rows in the server's order. -/
def mySqlCtrlGetEntranceResidenceListInfo (startPage num : ℤ) (result : List DeviceEntrance) :
    List DeviceEntrance :=
  limit ((startPage - 1) * num) num result

/-- `GetAbnormalVehicleList`: the total and the page. -/
def getAbnormalVehicleList [Server] (page num : ℤ) (t : EntranceTable) (startTime endTime : TimeYMD)
    (result : List DeviceEntrance) : Option (ℕ × List DeviceEntrance) :=
  if num < 0 then none
  else
    some (mySqlCtrlGetEntranceResidenceByTime t startTime endTime .min3,
      mySqlCtrlGetEntranceResidenceListInfo page num result)

/-! ## The station list -/

inductive Situation where
  | null
  | increment
  | losses
  deriving DecidableEq, Repr

/-- `vehicletype_all` -/
def vehicletypeAll : ℤ := 5

structure StationVehicles where
  situationType : Situation
  vehicleType : ℤ
  vehicleStart : TimeYMD
  vehicleEnd : TimeYMD
  fuzzyStr : FuzzyStr

/-- The search `GetEntranceVehiclesList` asks for. -/
def StationVehicles.serchInfo (attr : StationVehicles) : VehicleSearchInfo where
  vehicleType := if attr.vehicleType ≠ vehicletypeAll then attr.vehicleType else -1
  type :=
    { terr := false
      vehicle := attr.vehicleType ≠ vehicletypeAll
      fuzzy := 0 < attr.fuzzyStr.text.length
      increment := attr.situationType = .increment
      losses := attr.situationType = .losses }
  vehicleTerr := 0
  fuzzyStr := attr.fuzzyStr

/-- A station list without a type and a text, for concrete requests. -/
def sampleStation (situationType : Situation) (startTime endTime : TimeYMD) : StationVehicles where
  situationType := situationType
  vehicleType := vehicletypeAll
  vehicleStart := startTime
  vehicleEnd := endTime
  fuzzyStr := ⟨"", plainText_empty⟩

/-- A row with no stay, for concrete tables. -/
def sampleEntrance (plateNo : String) (startdate : TimeYMD) : DeviceEntrance :=
  ⟨"1", plateNo, 0, 0, 0, 0, startdate, startdate, ""⟩

/-- The group of that row alone. -/
def sampleGroup (plateNo : String) (startdate : TimeYMD) : EntranceGroup :=
  ⟨1, plateNo, startdate, 0, 0, 0, "", "1"⟩

end SmartPlat.VehicleDataAnalysis
