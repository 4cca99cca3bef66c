import SmartPlat.VehicleDataAnalysis.RateOfProgress
import SmartPlat.Lib.Table
import SmartPlat.Lib.SlidingRows

set_option autoImplicit false

/-! # In front of the station and at the pumps (`vehicledataanalysis.c`, `mysqlctrl.c`)

The frontage and the island branch of `MemoryDataToDatabasePro`. Both look up the latest row of the
plate and either insert a row or move the time of the row that was found. What the frontage branch
counts and pushes is in `RateOfProgress.lean`. -/

namespace SmartPlat.VehicleDataAnalysis

open SmartPlat.Lib

/-! ## The frontage branch -/

/-- The results of `insert` and `update` are ignored. -/
def frontageBranch (fetched : Option (List FrontageVisit)) (deviceStreet : StreetCapture)
    (t : FrontageTable) : FrontageTable :=
  match opensFrontage fetched deviceStreet with
  | none => (mySqlCtrlAddFrontageInfo deviceStreet t).2
  | some snapToken => mysqlCtrlUpdateFrontageInfo snapToken deviceStreet t

/-! ## The island branch -/

/-- `DeviceOilLand_T`, and a row of the island table: `id` is `snapToken` and `date` is `snaptime`. -/
structure DeviceOilLand where
  snapToken : String
  plateNo : String
  snaptime : TimeYMD
  deriving DecidableEq, Repr

/-- `MySqlCtrlAddIsLandInfo` -/
def mySqlCtrlAddIsLandInfo (info : DeviceOilLand) (t : List DeviceOilLand) : ℤ × List DeviceOilLand :=
  match insertRow DeviceOilLand.snapToken info t with
  | none => (keyFalse, t)
  | some t' => (keyTrue, t')

/-- `select * FROM island where date = (SELECT max(island.date) from island where plateNo = 'plateNo')` -/
def latestIslandRows (plateNo : String) (t : List DeviceOilLand) : List DeviceOilLand :=
  latestRows DeviceOilLand.plateNo (fun r => r.snaptime.datetime) plateNo t

/-- `MySqlCtrlGetLastIsLandInfo`, given the rows in the order the server returns them. -/
def mySqlCtrlGetLastIsLandInfo (plateNo : String) (fetched : List DeviceOilLand) : Option DeviceOilLand :=
  if plateNo.length = 0 then none else fetched.getLast?

/-- `MySqlCtrlSetIsLandInfo` -/
def mySqlCtrlSetIsLandInfo (token : String) (info : DeviceOilLand) (t : List DeviceOilLand) :
    ℤ × List DeviceOilLand :=
  (keyTrue, updateWhere DeviceOilLand.snapToken token (fun r => { r with snaptime := info.snaptime }) t)

def islandBranch (fetched : List DeviceOilLand) (deviceOliLand : DeviceOilLand) (t : List DeviceOilLand) :
    List DeviceOilLand :=
  match mySqlCtrlGetLastIsLandInfo deviceOliLand.plateNo fetched with
  | none => (mySqlCtrlAddIsLandInfo deviceOliLand t).2
  | some info =>
      let time1 := timeLocalYMD2Sec deviceOliLand.snaptime
      let time2 := timeLocalYMD2Sec info.snaptime
      if time1 - time2 > 8 * 60 then (mySqlCtrlAddIsLandInfo deviceOliLand t).2
      else (mySqlCtrlSetIsLandInfo info.snapToken deviceOliLand t).2

/-! ## Captures -/

/-- The two tables, and the captures so far. -/
structure Forecourt where
  frontage : FrontageTable
  island : List DeviceOilLand
  streets : List StreetCapture
  lands : List DeviceOilLand

/-- Empty tables; `hasPlanNo` as in `FrontageTable`. -/
def Forecourt.empty (hasPlanNo : Bool) : Forecourt := ⟨⟨hasPlanNo, []⟩, [], [], []⟩

/-- A capture, with what the server answers for its plate. -/
inductive ForecourtCapture where
  | frontage (deviceStreet : StreetCapture) (fetched : Option (List FrontageVisit))
  | island (deviceOliLand : DeviceOilLand) (fetched : List DeviceOilLand)

namespace ForecourtCapture

def time : ForecourtCapture → TimeYMD
  | .frontage c _ => c.time
  | .island c _ => c.snaptime

/-- The texts that are pasted into statements. -/
def texts : ForecourtCapture → List String
  | .frontage c _ => [c.snapToken, c.plateNo]
  | .island c _ => [c.snapToken, c.plateNo]

/-- No quote and no backslash, so that the texts stay inside their literals. -/
def Plain (l : ForecourtCapture) : Prop :=
  ∀ text ∈ l.texts, Char.ofNat 39 ∉ text.toList ∧ Char.ofNat 92 ∉ text.toList

/-- The server returns the rows that are selected, in any order. -/
def Fetched (s : Forecourt) : ForecourtCapture → Prop
  | .frontage c fetched => s.frontage.Fetched c.plateNo fetched
  | .island c fetched => fetched.Perm (latestIslandRows c.plateNo s.island)

/-- It is at a time of the calendar, and no earlier than the captures before it. -/
structure Timely (s : Forecourt) (l : ForecourtCapture) : Prop where
  valid : l.time.Valid
  streets : ∀ c ∈ s.streets, timeLocalYMD2Sec c.time ≤ timeLocalYMD2Sec l.time
  lands : ∀ c ∈ s.lands, timeLocalYMD2Sec c.snaptime ≤ timeLocalYMD2Sec l.time

def run (s : Forecourt) : ForecourtCapture → Forecourt
  | .frontage c fetched =>
      { s with frontage := frontageBranch fetched c s.frontage, streets := s.streets ++ [c] }
  | .island c fetched => { s with island := islandBranch fetched c s.island, lands := s.lands ++ [c] }

end ForecourtCapture

/-- With a text that ends its literal the statements are other ones, and nothing is known of what
    they do. -/
def forecourtStep (s : Forecourt) (l : ForecourtCapture) (s' : Forecourt) : Prop :=
  l.Timely s ∧ l.Fetched s ∧ (l.Plain → s' = l.run s)

end SmartPlat.VehicleDataAnalysis
