import SmartPlat.CJson
import SmartPlat.Lib.Printf
import SmartPlat.Lib.Table

set_option autoImplicit false

/-! # Upload of pipe data (`jsonswitch.c`, `fuelquantity.c`, `mysqlctrl.c`)

`FunUploadOilStationData` reads the rows of a batch from JSON into memory from `malloc`, and
`AddStuckPipeData` deletes a month and inserts the rows one by one. A member that is not in the JSON is
not written; a statement that reads it reads memory nobody has written. -/

namespace SmartPlat.FuelQuantityAnalysis

open SmartPlat.Lib

/-- `float`: its type `F`, `atof`, and the value after `%.2f` and a column of `float(255,2)`. -/
structure FloatColumn (F : Type) where
  atof : List UInt8 → F
  column : F → F

/-- A row of the table `fuelquantity`, and the values of an insertion. -/
structure FuelRow (F : Type) where
  stationName : CString
  oils : ℤ
  LPM : F
  number : ℤ
  year : ℤ
  month : ℤ
  day : ℤ
  hour : ℤ
  min : ℤ
  sec : ℤ
  deriving DecidableEq, Repr

abbrev FuelTable (F : Type) := List (FuelRow F)

variable {F : Type}

/-- `date_format(time, '%Y-%m')` -/
def FuelRow.yearMonth (r : FuelRow F) : ℤ × ℤ := (r.year, r.month)

/-- The row as it is stored. -/
def FloatColumn.stored (env : FloatColumn F) (r : FuelRow F) : FuelRow F :=
  { r with LPM := env.column r.LPM }

/-- `StuckPipeInfo_T`, by what was written to it: `none` is a name that was not, and `date` holds the
    first members of the date, up to the first that was not. -/
structure StuckPipeInfo (F : Type) where
  stationName : Option (CharArray 127)
  oils : ℤ
  LPM : F
  number : ℤ
  date : List ℤ

/-- The values an insertion reads, where all of them were written. -/
def StuckPipeInfo.values (info : StuckPipeInfo F) : Option (FuelRow F) :=
  match info.stationName, info.date with
  | some name, [year, month, day, hour, min, sec] =>
      some ⟨name.str, info.oils, info.LPM, info.number, year, month, day, hour, min, sec⟩
  | _, _ => none

/-- Ways an upload can go wrong that C leaves undefined. -/
inductive UploadFault where
  /-- `info->date` of a list without elements. -/
  | emptyList
  /-- A member is read that was never written. -/
  | uninitialised
  deriving DecidableEq, Repr

/-- What the server does with the statements of one upload: whether the deletion is executed, and
    which rows the `i`-th insertion adds, if it is executed. -/
structure FuelServer (F : Type) where
  deletes : Bool
  insert : ℕ → FuelRow F → Option (FuelTable F)

/-! ## Statements -/

/-- `insert into fuelquantity(…) value(…)`, the `i`-th of an upload. -/
def mySqlCtrlAddStuckPipeData (server : FuelServer F) (i : ℕ) (info : StuckPipeInfo F)
    (t : FuelTable F) : Except UploadFault (ℤ × FuelTable F) :=
  match info.values with
  | none => .error .uninitialised
  | some values =>
      match server.insert i values with
      | none => .ok (keyFalse, t)
      | some rows => .ok (keyTrue, t ++ rows)

/-- `delete from fuelquantity where date_format(time, '%Y-%m') = …` -/
def mysqlDelStuckPipeDataByDate (server : FuelServer F) (date : List ℤ) (t : FuelTable F) :
    Except UploadFault (ℤ × FuelTable F) :=
  match date with
  | year :: month :: _ =>
      if server.deletes then .ok (keyTrue, t.filter fun r => r.yearMonth ≠ (year, month))
      else .ok (keyFalse, t)
  | _ => .error .uninitialised

/-! ## `AddStuckPipeData` -/

/-- The loop from the `i`-th row on. The results of the insertions are ignored. -/
def addRows (server : FuelServer F) : ℕ → List (StuckPipeInfo F) → FuelTable F →
    Except UploadFault (FuelTable F)
  | _, [], t => .ok t
  | i, info :: infos, t =>
      (mySqlCtrlAddStuckPipeData server i info t).bind fun r => addRows server (i + 1) infos r.2

def addStuckPipeData (server : FuelServer F) (info : List (StuckPipeInfo F)) (t : FuelTable F) :
    Except UploadFault (ℤ × FuelTable F) :=
  match info with
  | [] => .error .emptyList
  | first :: _ =>
      (mysqlDelStuckPipeDataByDate server first.date t).bind fun r =>
        if r.1 = keyFalse then .ok r
        else (addRows server 0 info r.2).map fun t => (r.1, t)

/-! ## `FunUploadOilStationData` -/

/-- The string of a member, in a buffer that was cleared. -/
def itemText (item : CJson) (name : String) : List UInt8 :=
  ((item.getObjectItemValueString 127 (ascii name)).map fun s => s.str.bytes).getD []

/-- One element of the list. -/
def stuckPipeOf (env : FloatColumn F) (item : CJson) : StuckPipeInfo F where
  stationName := item.getObjectItemValueString 127 (ascii "name")
  oils := atoi (itemText item "Oils")
  LPM := env.atof (itemText item "LPM")
  number := atoi (itemText item "number")
  date := sscanfDate (itemText item "date")

def fuelQuantityTypeStuckPipe : ℤ := 2

/-- `FunUploadOilStationData`, in a session with the right to upload. What `AddStuckPipeData` returns is
    not read. -/
def funUploadOilStationData (env : FloatColumn F) (server : FuelServer F) (data : CJson)
    (t : FuelTable F) : Except UploadFault (ℤ × FuelTable F) :=
  match data.getObjectItem (ascii "datalist") with
  | none => .ok (keyFalse, t)
  | some dataList =>
      -- the type is kept in a `char`
      if (data.getObjectItemValueInt (ascii "uploadtype")).bmod 256 = fuelQuantityTypeStuckPipe then
        (addStuckPipeData server (dataList.arrayItems.map (stuckPipeOf env)) t).map
          fun r => (keyTrue, r.2)
      else .ok (keyTrue, t)

end SmartPlat.FuelQuantityAnalysis
